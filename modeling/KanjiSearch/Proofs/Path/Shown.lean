import KanjiSearch.Proofs.Path.Relative
import KanjiSearch.Proofs.Path.Resolution

/-!
# Paths that are shown

A path is shown from a directory in the shortest way that does not lead up (`IsShown`, `isShown_shown`): by what is
below the directory, else by what is below the home directory, else as it was given. A reader in the directory finds
the same path by this text (`resolve?_of_isShown`, `shown_read_back`), unless what is below the directory starts with a
name that is a tilde, which is then taken for the home directory. Home directory, directory of the reader and path are
absolute here, the latter two without steps up.
-/

namespace KanjiSearch.Path

variable {home base p : Path} {text : List Char} {below : List Component}

/-! ## What is shown -/

/-- The text by which the absolute path `p` is shown in the directory `base`. -/
inductive IsShown (home base p : Path) : List Char → Prop
  /-- the directory itself -/
  | self : p.components = base.components → IsShown home base p ['.']
  /-- a path below the directory, by the components that are left -/
  | below {below : List Component} : p.components = base.components ++ below → below ≠ [] →
      IsShown home base p (List.intercalate ['/'] (below.map (·.text)))
  /-- another path in the home directory, by a tilde and what is left of it as it was written -/
  | inHome {rest : Path} : ¬ base.components <+: p.components → p.components = home.components ++ rest.components →
      rest.start = [] → rest.text <:+: p.text → IsShown home base p ('~' :: '/' :: rest.text)
  /-- any other path, as it was written -/
  | stored : ¬ base.components <+: p.components → ¬ home.components <+: p.components → IsShown home base p p.text

section Shown

theorem relativeTo?_of_isAbsolute (hp : p.isAbsolute = true) (hbase : base.isAbsolute = true) :
    p.relativeTo? base = wayBetween? p.components base.components := by
  rw [relativeTo?, if_pos (hp.trans hbase.symm)]

/-- What is below an absolute directory are steps of the path. -/
theorem mem_steps_of_below {c : Component} (hp : p.isAbsolute = true) (hbase : base.isAbsolute = true)
    (h : p.components = base.components ++ below) (hc : c ∈ below) : c ∈ p.steps := by
  rw [components_of_isAbsolute hp, components_of_isAbsolute hbase, List.cons_append] at h
  rw [(List.cons.inj h).2]
  exact List.mem_append_right _ hc

theorem shownFrom?_self (hp : p.isAbsolute = true) (hbase : base.isAbsolute = true)
    (h : p.components = base.components) : shownFrom? base p = some ['.'] := by
  have hway := wayBetween?_append base.components []
  rw [List.append_nil] at hway
  rw [shownFrom?, relativeTo?_of_isAbsolute hp hbase, h, hway]

theorem shownFrom?_below (hp : p.isAbsolute = true) (hbase : base.isAbsolute = true) (hup : .up ∉ p.steps)
    (h : p.components = base.components ++ below) (hne : below ≠ []) :
    shownFrom? base p = some (List.intercalate ['/'] (below.map (·.text))) := by
  have hmem : ∀ c ∈ below, c ∈ p.steps := fun c => mem_steps_of_below hp hbase h
  have htext := ofComponents_steps fun c hc => isStep_of_mem_steps (hmem c hc)
  obtain ⟨c, rest, rfl⟩ := List.exists_cons_of_ne_nil hne
  have hc := hmem c List.mem_cons_self
  rw [shownFrom?, relativeTo?_of_isAbsolute hp hbase, h, wayBetween?_append]
  cases c with
  | root => exact absurd hc p.root_not_mem_steps
  | here => exact absurd hc p.here_not_mem_steps
  | up => exact absurd hc hup
  | name name => exact congrArg (fun q : Path => some q.text) htext

theorem shownFrom?_eq_none (hp : p.isAbsolute = true) (hbase : base.isAbsolute = true) (hup : .up ∉ base.steps)
    (h : ¬ base.components <+: p.components) : shownFrom? base p = none := by
  have hhere : .here ∉ base.components := by
    rw [components_of_isAbsolute hbase]
    simp [base.here_not_mem_steps]
  have hup : .up ∉ base.components := by
    rw [components_of_isAbsolute hbase]
    simp [hup]
  obtain ⟨way, hway⟩ := wayBetween?_of_not_prefix hhere hup h
  rw [shownFrom?, relativeTo?_of_isAbsolute hp hbase, hway]

theorem join_tilde (hp : p.start = []) : (join ⟨['~']⟩ p).text = '~' :: '/' :: p.text := by
  rw [join, if_neg (by simp [isAbsolute_of_start hp])]
  simp

/-- **What is shown of an absolute path.** -/
theorem isShown_shown (hhome : home.isAbsolute = true) (hbase : base.isAbsolute = true) (hp : p.isAbsolute = true)
    (hbaseUp : .up ∉ base.steps) (hup : .up ∉ p.steps) :
    IsShown home base p (shown (some home) (some base) p) := by
  unfold shown
  rw [Option.bind_some, Option.bind_some]
  by_cases hbelow : base.components <+: p.components
  · obtain ⟨below, hbelow⟩ := hbelow
    by_cases hne : below = []
    · rw [hne, List.append_nil] at hbelow
      rw [shownFrom?_self hp hbase hbelow.symm]
      exact .self hbelow.symm
    · rw [shownFrom?_below hp hbase hup hbelow.symm hne]
      exact .below hbelow.symm hne
  · rw [shownFrom?_eq_none hp hbase hbaseUp hbelow]
    dsimp only
    by_cases hinHome : home.components <+: p.components
    · obtain ⟨below, hbelow'⟩ := hinHome
      obtain ⟨rest, hrest, hstart, hcomponents, htext⟩ := exists_below? hp hhome hbelow'.symm
      rw [shownFromHome?, hrest, Option.map_some, Option.getD_some, join_tilde hstart]
      exact .inHome hbelow (by rw [hcomponents, hbelow']) hstart htext
    · rw [shownFromHome?, below?_eq_none hp hhome hinHome]
      exact .stored hbelow hinHome

end Shown

/-! ## What a reader finds -/

theorem pieces_of_namesHome (h : NamesHome text) : (pieces ⟨text⟩).head? = some ['~'] := by
  rcases h with rfl | ⟨rest, rfl⟩
  · rfl
  · have hsplit := @List.splitOn_append_cons_self _ _ _ '/' ['~'] rest
    rw [pieces]
    change (List.splitOn '/' (['~'] ++ '/' :: rest)).head? = some ['~']
    rw [hsplit]
    rfl

/-- A name without a tilde leads straight down from a directory, if there is no step up in either. -/
theorem exists_resolve?_down (hbase : base.isAbsolute = true) (hrel : (⟨text⟩ : Path).isAbsolute = false)
    (hhome : ¬ NamesHome text) (hup : .up ∉ base.steps ++ steps ⟨text⟩) (home : Option Path) :
    ∃ q, resolve? home base text = some q ∧ q.components = base.components ++ steps ⟨text⟩ := by
  have hjoin := isAbsolute_join hbase ⟨text⟩
  rw [← steps_join base hrel] at hup
  refine ⟨_, resolve?_eq_folded hrel hhome home base, ?_⟩
  rw [components_of_isAbsolute (isAbsolute_folded hjoin), steps_folded_of_no_up hup, ← components_of_isAbsolute hjoin,
    components_join_of_isAbsolute hbase hrel]

/-- Steps are written with a tilde in front only if the first of them is one. -/
theorem eq_tilde_of_namesHome {c : Component} (hsteps : ∀ d ∈ c :: below, IsStep d)
    (h : NamesHome (ofComponents (c :: below)).text) : c = .name ['~'] := by
  have hpieces := pieces_ofComponents_steps hsteps (List.cons_ne_nil _ _)
  have hhead := pieces_of_namesHome h
  rw [hpieces, List.map_cons, List.head?_cons, Option.some.injEq] at hhead
  have hstep := (hsteps c List.mem_cons_self).1
  rw [hhead] at hstep
  exact (Option.some.inj hstep).symm

theorem exists_resolve?_below (hbase : base.isAbsolute = true) (hp : p.isAbsolute = true) (hbaseUp : .up ∉ base.steps)
    (hup : .up ∉ p.steps) (h : p.components = base.components ++ below) (hne : below ≠ [])
    (htilde : ¬ base.components ++ [.name ['~']] <+: p.components) (home : Option Path) :
    ∃ q, resolve? home base (List.intercalate ['/'] (below.map (·.text))) = some q ∧ q.components = p.components := by
  have hmem : ∀ c ∈ below, c ∈ p.steps := fun c => mem_steps_of_below hp hbase h
  have hisStep : ∀ c ∈ below, IsStep c := fun c hc => isStep_of_mem_steps (hmem c hc)
  have hsteps := steps_ofComponents_steps hisStep
  have hrel := isAbsolute_of_start (start_ofComponents_steps hisStep)
  have hnames : ¬ NamesHome (ofComponents below).text := fun hnames => by
    obtain ⟨c, rest, rfl⟩ := List.exists_cons_of_ne_nil hne
    refine htilde ⟨rest, ?_⟩
    rw [h, eq_tilde_of_namesHome hisStep hnames, List.append_assoc, List.singleton_append]
  rw [ofComponents_steps hisStep] at hsteps hrel hnames
  have hupBelow : .up ∉ base.steps ++ below := by
    rw [List.mem_append, not_or]
    exact ⟨hbaseUp, fun hmemUp => hup (hmem _ hmemUp)⟩
  obtain ⟨q, hq, hcomponents⟩ := exists_resolve?_down hbase hrel hnames (by rwa [hsteps]) home
  exact ⟨q, hq, by rw [hcomponents, hsteps, h]⟩

/-- **The text by which a path is shown names it**, unless what is below the directory starts with a tilde. -/
theorem resolve?_of_isShown (hhome : home.isAbsolute = true) (hbase : base.isAbsolute = true)
    (hp : p.isAbsolute = true) (hbaseUp : .up ∉ base.steps) (hup : .up ∉ p.steps)
    (htilde : ¬ base.components ++ [.name ['~']] <+: p.components) (h : IsShown home base p text) :
    ∃ q, resolve? (some home) base text = some q ∧ q.components = p.components := by
  cases h with
  | self h =>
    have hdot : steps ⟨['.']⟩ = [] := rfl
    obtain ⟨q, hq, hcomponents⟩ := @exists_resolve?_down base ['.'] hbase rfl (by decide)
      (by rwa [hdot, List.append_nil]) (some home)
    exact ⟨q, hq, by rw [hcomponents, hdot, List.append_nil, h]⟩
  | below h hne => exact exists_resolve?_below hbase hp hbaseUp hup h hne htilde (some home)
  | @inHome rest _ h hstart _ =>
    refine ⟨home.join rest, resolve?_tilde hhome base rest.text, ?_⟩
    rw [components_join home hstart, h]
  | stored => exact ⟨p, resolve?_text (some home) base hp, rfl⟩

/-- **Paths are shown in a short way in which they are found again**, unless the first component below the directory of
the reader is a tilde. -/
theorem shown_read_back (hhome : home.isAbsolute = true) (hbase : base.isAbsolute = true) (hp : p.isAbsolute = true)
    (hbaseUp : .up ∉ base.components) (hup : .up ∉ p.components) :
    IsShown home base p (shown (some home) (some base) p) ∧
    ∃ q, resolve? (some home) base (shown (some home) (some base) p) = some q ∧
      (¬ base.components ++ [.name ['~']] <+: p.components → q.components = p.components) := by
  rw [components_of_isAbsolute hbase, List.mem_cons, not_or] at hbaseUp
  rw [components_of_isAbsolute hp, List.mem_cons, not_or] at hup
  have hshown := isShown_shown hhome hbase hp hbaseUp.2 hup.2
  refine ⟨hshown, ?_⟩
  obtain ⟨q, hq⟩ := exists_resolve? home base (shown (some home) (some base) p)
  refine ⟨q, hq, fun htilde => ?_⟩
  obtain ⟨q', hq', hcomponents⟩ := resolve?_of_isShown hhome hbase hp hbaseUp.2 hup.2 htilde hshown
  cases hq.symm.trans hq'
  exact hcomponents

/-- A file of another project in the home directory. -/
theorem shown_read_back_home : let home := Path.ofString "/home/me/"
    let base := Path.ofString "/home/me/work"
    let p := Path.ofString "/home//me/other//k.json"
    (home.isAbsolute = true ∧ base.isAbsolute = true ∧ p.isAbsolute = true ∧ .up ∉ base.components ∧
      .up ∉ p.components) ∧
    IsShown home base p "~/other//k.json".toList ∧
    ∃ q, resolve? (some home) base "~/other//k.json".toList = some q ∧ q.components = p.components := by
  intro home base p
  have habs : home.isAbsolute = true ∧ base.isAbsolute = true ∧ p.isAbsolute = true := by decide
  have hup : .up ∉ base.components ∧ .up ∉ p.components := by decide
  have htext : shown (some home) (some base) p = "~/other//k.json".toList := by decide
  obtain ⟨hshown, q, hq, hcomponents⟩ := shown_read_back habs.1 habs.2.1 habs.2.2 hup.1 hup.2
  rw [htext] at hshown hq
  exact ⟨⟨habs.1, habs.2.1, habs.2.2, hup⟩, hshown, q, hq, hcomponents (by decide)⟩

/-- Where a name below the directory is a tilde, the text that is shown leads into the home directory. -/
example : let home := Path.ofString "/home/me"
    shown (some home) (some (.ofString "/work")) (.ofString "/work/~/k") = "~/k".toList ∧
    resolve? (some home) (.ofString "/work") "~/k".toList = some (.ofString "/home/me/k") := by
  decide

end KanjiSearch.Path
