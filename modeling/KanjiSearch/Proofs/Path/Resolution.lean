import KanjiSearch.Path.Home
import KanjiSearch.Proofs.Path.Folding

/-!
# What names in settings lead to

* `resolve?_text`: an absolute path leads to itself, whatever the directories are.
* `isAbsolute_resolve?`: with an absolute home directory, a name in a settings file of an absolute directory leads to an
  absolute path.
* `resolve?_in_absolute`: there a name with neither a slash nor a tilde at its start leads to the place to which its
  steps lead from the place of the directory, where a step up at the root stays there.
* `resolve?_below_home`: a name with a tilde leads on from the home directory, unless its rest starts with a slash
  (`rest_leaves_home`), which makes no difference only if the home directory is the root.
-/

namespace KanjiSearch.Path

variable {p dir : Path} {home : Option Path} {text : List Char}

/-! ## Names with and without a tilde -/

/-- A name that stands for the home directory or for something in it. -/
def NamesHome (text : List Char) : Prop :=
  text = ['~'] ∨ ['~', '/'] <+: text

instance : DecidablePred NamesHome := fun _ => inferInstanceAs (Decidable (_ ∨ _))

theorem expandHome?_of_not_namesHome (h : ¬ NamesHome text) (home : Option Path) :
    expandHome? home text = some ⟨text⟩ := by
  unfold expandHome?
  split
  · exact absurd (.inl rfl) h
  · next rest => exact absurd (.inr (List.prefix_append ['~', '/'] rest)) h
  · rfl

/-- When the home directory is known, every name leads somewhere. -/
theorem exists_resolve? (home dir : Path) (text : List Char) : ∃ p, resolve? (some home) dir text = some p := by
  unfold resolve? expandHome?
  split <;> exact ⟨_, rfl⟩

/-- A name without a tilde is read from the directory and folded. -/
theorem resolve?_eq_folded (hrel : (⟨text⟩ : Path).isAbsolute = false) (h : ¬ NamesHome text) (home : Option Path)
    (dir : Path) : resolve? home dir text = some (dir.join ⟨text⟩).folded := by
  rw [resolve?, expandHome?_of_not_namesHome h, Option.map_some, if_neg (by simp [hrel])]

theorem not_namesHome_of_isAbsolute (hp : p.isAbsolute = true) : ¬ NamesHome p.text := by
  rw [isAbsolute, beq_iff_eq] at hp
  rintro (h | ⟨rest, h⟩)
  · rw [h] at hp
    cases hp
  · rw [← h] at hp
    cases hp

/-- An absolute path is named by its text. -/
theorem resolve?_text (home : Option Path) (dir : Path) (hp : p.isAbsolute = true) :
    resolve? home dir p.text = some p := by
  rw [resolve?, expandHome?_of_not_namesHome (not_namesHome_of_isAbsolute hp), Option.map_some, if_pos hp]

theorem isAbsolute_resolve? (hdir : dir.isAbsolute = true) (h : resolve? home dir text = some p) :
    p.isAbsolute = true := by
  obtain ⟨q, -, rfl⟩ := Option.map_eq_some_iff.mp h
  split
  · assumption
  · exact isAbsolute_folded (isAbsolute_join hdir q)

/-! ## Names read from an absolute directory -/

theorem components_folded_of_isAbsolute (hp : p.isAbsolute = true) :
    p.folded.components = .root :: p.trail.pairedOff.steps := by
  rw [components_folded, origin, if_pos hp]
  rfl

theorem dot_not_mem_folded (hp : p.isAbsolute = true) : ['.'] ∉ p.folded.pieces := by
  rw [folded_eq, origin, if_pos hp]
  exact dot_not_mem_pieces fun _ => isStep_of_mem_pairedOff

/-- **A name leads where its steps lead from the directory**, by an absolute path without dots. -/
theorem resolve?_in_absolute (hdir : dir.isAbsolute = true) (hrel : (⟨text⟩ : Path).isAbsolute = false)
    (hhome : ¬ NamesHome text) (home : Option Path) : ∃ p, resolve? home dir text = some p ∧
      p.isAbsolute = true ∧ ['.'] ∉ p.pieces ∧
      (∃ levels names, levels ≤ 1 ∧
        p.components = .root :: (List.replicate levels .up ++ List.map Component.name names)) ∧
      p.place = (dir.join ⟨text⟩).place ∧ p.place = Disk.follow dir.place (steps ⟨text⟩) ∧
      ∀ home' dir', resolve? home' dir' p.text = some p := by
  have hjoin := isAbsolute_join hdir ⟨text⟩
  have hplace := place_folded (dir.join ⟨text⟩)
  have hfolded := isAbsolute_folded hjoin
  refine ⟨(dir.join ⟨text⟩).folded, resolve?_eq_folded hrel hhome home dir, hfolded, dot_not_mem_folded hjoin,
    ⟨_, _, Trail.levels_pairedOff_le _, components_folded_of_isAbsolute hjoin⟩, hplace, ?_,
    fun home' dir' => resolve?_text home' dir' hfolded⟩
  rw [hplace, place_join dir hrel]

/-- Two steps up from a directory at the root: one is written, and the place is that of the name alone. -/
theorem resolve?_in_absolute_above_root : (Path.ofString "/work").isAbsolute = true ∧
    (Path.ofString "../../k").isAbsolute = false ∧ ¬ NamesHome "../../k".toList ∧
    ∃ p, resolve? none (.ofString "/work") "../../k".toList = some p ∧ p = .ofString "/../k" ∧ p.place = [['k']] ∧
      resolve? none (.ofString "conf") p.text = some p := by
  have hdir : (Path.ofString "/work").isAbsolute = true := by decide
  have hrel : (Path.ofString "../../k").isAbsolute = false := by decide
  have hhome : ¬ NamesHome "../../k".toList := by decide
  obtain ⟨p, hp, -, -, -, -, hplace, hagain⟩ := resolve?_in_absolute hdir hrel hhome none
  refine ⟨hdir, hrel, hhome, p, hp, ?_, hplace.trans (by decide), hagain none _⟩
  exact Option.some.inj (hp.symm.trans (by decide))

/-! ## Names read from the home directory -/

theorem resolve?_tilde {home : Path} (hhome : home.isAbsolute = true) (dir : Path) (rest : List Char) :
    resolve? (some home) dir ('~' :: '/' :: rest) = some (home.join ⟨rest⟩) := by
  have hexpand : expandHome? (some home) ('~' :: '/' :: rest) = some (home.join ⟨rest⟩) := rfl
  rw [resolve?, hexpand, Option.map_some, if_pos (isAbsolute_join hhome _)]

theorem components_join_of_isAbsolute {base : Path} (hbase : base.isAbsolute = true) (hp : p.isAbsolute = false) :
    (base.join p).components = base.components ++ p.steps := by
  rw [components_of_isAbsolute (isAbsolute_join hbase p), components_of_isAbsolute hbase, steps_join base hp]
  rfl

/-- **A name with a tilde leads on from the home directory exactly if its rest does not start with a slash.** -/
theorem resolve?_below_home {home : Path} (hhome : home.isAbsolute = true) (dir : Path) (rest : List Char) :
    ∃ p, resolve? (some home) dir ('~' :: '/' :: rest) = some p ∧ p.isAbsolute = true ∧
      (p.components = home.components ++ steps ⟨rest⟩ ↔
        (⟨rest⟩ : Path).isAbsolute = false ∨ home.components = [.root]) ∧
      ((⟨rest⟩ : Path).isAbsolute = true → p = ⟨rest⟩) := by
  refine ⟨home.join ⟨rest⟩, resolve?_tilde hhome dir rest, isAbsolute_join hhome _, ?_,
    fun hrest => join_of_isAbsolute hrest home⟩
  cases hrest : (⟨rest⟩ : Path).isAbsolute with
  | false => simp [components_join_of_isAbsolute hhome hrest]
  | true =>
    have hcons : Component.root :: steps ⟨rest⟩ = [.root] ++ steps ⟨rest⟩ := rfl
    rw [join_of_isAbsolute hrest, components_of_isAbsolute hrest, hcons, List.append_left_inj]
    simp [eq_comm]

theorem resolve?_below_home_dots : (Path.ofString "/home/me").isAbsolute = true ∧
    ∃ p, resolve? (some (.ofString "/home/me")) (.ofString "/work") "~/./a//../k".toList = some p ∧
      p.components = (Path.ofString "/home/me").components ++ [.name ['a'], .up, .name ['k']] := by
  have hhome : (Path.ofString "/home/me").isAbsolute = true := by decide
  obtain ⟨p, hp, -, hiff, -⟩ := resolve?_below_home hhome (.ofString "/work") "./a//../k".toList
  exact ⟨hhome, p, hp, (hiff.mpr (.inl (by decide))).trans (by decide)⟩

/-- A second slash behind the tilde: the name leads out of the home directory. -/
theorem rest_leaves_home : resolve? (some (.ofString "/home/me")) (.ofString "/work") "~//etc/k".toList =
      some (.ofString "/etc/k") ∧
    ¬ (Path.ofString "/home/me").components <+: (Path.ofString "/etc/k").components ∧
    (Path.ofString "/etc/k").components ≠ (Path.ofString "/home/me").components ++ steps ⟨"/etc/k".toList⟩ := by
  decide

end KanjiSearch.Path
