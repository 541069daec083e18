import KanjiSearch.Path.Folded
import KanjiSearch.Proofs.Disk.Writing
import KanjiSearch.Proofs.Path.Written

/-!
# What folding does

Steps lead along a trail (`Trail`): so many levels up from where they start, and from there down to a place. The trail
is what is left of a row of steps when each step up takes back the nearest name before it. Folding keeps the names of
the trail, but of its levels every second one takes back the one before it (`foldl_foldStep`, `components_folded`).

So a path from the root leads to the same place when it is folded (`place_folded`), since nothing is above the root. Any
other path keeps the trail of its steps exactly when that leads at most one level up (`steps_pairedOff_iff`).
-/

namespace KanjiSearch

/-! ## Trails -/

/-- Where steps lead: some levels up from their start, and from there down to a place. -/
structure Trail where
  levels : Nat
  place : Place

namespace Trail

/-- One more step. A step up takes back the last name; where there is none, it leads a level further up. -/
def step : Trail → Component → Trail
  | ⟨levels, place⟩, .name name => ⟨levels, name :: place⟩
  | ⟨levels, []⟩, .up => ⟨levels + 1, []⟩
  | ⟨levels, _ :: place⟩, .up => ⟨levels, place⟩
  | trail, _ => trail

/-- The trail of a row of steps. -/
def ofSteps (steps : List Component) : Trail :=
  steps.foldl step ⟨0, []⟩

/-- The names by which a trail leads down. -/
def names (t : Trail) : List Component :=
  t.place.reverse.map .name

/-- The steps of a trail: first up, then down. -/
def steps (t : Trail) : List Component :=
  List.replicate t.levels .up ++ t.names

/-- The trail whose levels have taken back each other in pairs: of an odd number one is left, of an even number none. -/
def pairedOff (t : Trail) : Trail :=
  { t with levels := t.levels % 2 }

theorem steps_pairedOff_iff {t : Trail} : t.pairedOff.steps = t.steps ↔ t.levels ≤ 1 := by
  constructor
  · intro h
    have hlength := congrArg List.length h
    simp only [steps, names, pairedOff, List.length_append, List.length_replicate] at hlength
    omega
  · intro h
    have hlevels : t.levels % 2 = t.levels := Nat.mod_eq_of_lt (by omega)
    rw [steps, steps, pairedOff, hlevels]

theorem levels_pairedOff_le (t : Trail) : t.pairedOff.levels ≤ 1 :=
  Nat.le_of_lt_succ (Nat.mod_lt _ (by omega))

theorem foldl_step_names (names : List (List Char)) (levels : Nat) (place : Place) :
    (names.map Component.name).foldl step ⟨levels, place⟩ = ⟨levels, names.reverse ++ place⟩ := by
  induction names generalizing place with
  | nil => rfl
  | cons name names ih =>
    rw [List.map_cons, List.foldl_cons, step, ih, List.reverse_cons, List.append_assoc]
    rfl

/-- Names are their own trail. -/
theorem steps_pairedOff_names (names : List (List Char)) :
    (ofSteps (names.map Component.name)).pairedOff.steps = names.map Component.name := by
  rw [ofSteps, foldl_step_names]
  simp [pairedOff, steps, Trail.names]

/-- The names of a trail are steps of the row. -/
theorem mem_place {row : List Component} {t : Trail} {name : List Char} (h : name ∈ (row.foldl step t).place) :
    name ∈ t.place ∨ .name name ∈ row := by
  induction row generalizing t with
  | nil => exact .inl h
  | cons c row ih =>
    rcases ih h with hname | hname
    · obtain ⟨levels, place⟩ := t
      cases c with
      | root | here => exact .inl hname
      | name last =>
        rcases List.mem_cons.mp hname with rfl | hname
        · exact .inr List.mem_cons_self
        · exact .inl hname
      | up =>
        cases place with
        | nil => exact .inl hname
        | cons last place => exact .inl (List.mem_cons_of_mem _ hname)
    · exact .inr (List.mem_cons_of_mem _ hname)

/-- The place of a trail is the one to which its steps lead from the root. -/
theorem follow_eq_place (row : List Component) (levels : Nat) (place : Place) :
    Disk.follow place row = (row.foldl step ⟨levels, place⟩).place := by
  induction row generalizing levels place with
  | nil => rfl
  | cons c row ih =>
    cases c with
    | root | here => exact ih levels place
    | name name => exact ih levels (name :: place)
    | up =>
      cases place with
      | nil => exact ih (levels + 1) []
      | cons last place => exact ih levels place

theorem follow_names (start place : Place) : Disk.follow start (place.reverse.map .name) = place ++ start := by
  rw [Disk.follow, List.foldl_map, List.foldl_reverse, List.foldr_cons_eq_append]
  simp

/-- The steps of a trail lead from the root to its place, however many levels up they lead before. -/
theorem follow_steps (t : Trail) : Disk.follow [] t.steps = t.place := by
  have hup : ∀ levels, Disk.follow [] (List.replicate levels .up) = [] := fun levels => by
    induction levels with
    | zero => rfl
    | succ levels ih => exact ih
  rw [steps, Disk.follow_append, hup, names, follow_names, List.append_nil]

end Trail

/-! ## Folded rows -/

namespace Path

variable {p base : Path} {steps : List Component}

/-- Folded steps of a trail in reverse order, behind `origin`. -/
def foldedBehind (origin : List Component) (t : Trail) : List Component :=
  t.place.map .name ++ (List.replicate (t.levels % 2) .up ++ origin)

/-- **One step of folding** is a step of the trail, of whose levels every second one takes back the one before it. -/
theorem foldStep_foldedBehind {origin : List Component} (horigin : origin = [] ∨ origin = [.root]) (t : Trail)
    {c : Component} (hc : c ≠ .root) : foldStep (foldedBehind origin t) c = foldedBehind origin (t.step c) := by
  obtain ⟨levels, place⟩ := t
  cases c with
  | root => exact absurd rfl hc
  | here => rfl
  | name name => rfl
  | up =>
    cases place with
    | cons last place => rfl
    | nil =>
      rcases Nat.mod_two_eq_zero_or_one levels with heven | hodd
      · have hnext : (levels + 1) % 2 = 1 := by omega
        rcases horigin with rfl | rfl <;> simp [foldedBehind, Trail.step, heven, hnext, foldStep]
      · have hnext : (levels + 1) % 2 = 0 := by omega
        simp [foldedBehind, Trail.step, hodd, hnext, foldStep]

theorem foldl_foldStep {origin : List Component} (horigin : origin = [] ∨ origin = [.root])
    (hsteps : .root ∉ steps) (t : Trail) :
    steps.foldl foldStep (foldedBehind origin t) = foldedBehind origin (steps.foldl Trail.step t) := by
  induction steps generalizing t with
  | nil => rfl
  | cons c steps ih =>
    rw [List.mem_cons, not_or] at hsteps
    rw [List.foldl_cons, List.foldl_cons, foldStep_foldedBehind horigin t (Ne.symm hsteps.1), ih hsteps.2]

/-- The root for an absolute path, and nothing for another one. -/
def origin (p : Path) : List Component :=
  if p.isAbsolute then [.root] else []

theorem origin_cases (p : Path) : p.origin = [] ∨ p.origin = [.root] := by
  unfold origin
  split
  · exact .inr rfl
  · exact .inl rfl

theorem foldl_start (p : Path) : p.start.foldl foldStep [] = p.origin := by
  unfold start origin
  split
  · rfl
  · split <;> rfl

theorem root_not_mem_steps (p : Path) : .root ∉ p.steps := fun h => by
  obtain ⟨piece, -, hpiece⟩ := List.mem_filterMap.mp h
  exact step?_ne_root piece hpiece

theorem here_not_mem_steps (p : Path) : .here ∉ p.steps := fun h => by
  obtain ⟨piece, -, hpiece⟩ := List.mem_filterMap.mp h
  exact step?_ne_here piece hpiece

/-- The trail of the steps of a path. -/
def trail (p : Path) : Trail :=
  Trail.ofSteps p.steps

/-- **What folding leaves of a row of components.** -/
theorem foldComponents_components (p : Path) : foldComponents p.components = p.origin ++ p.trail.pairedOff.steps := by
  have hfold : p.components.foldl foldStep [] = foldedBehind p.origin p.trail := by
    rw [components, List.foldl_append, foldl_start]
    exact foldl_foldStep p.origin_cases p.root_not_mem_steps ⟨0, []⟩
  rw [foldComponents, hfold, foldedBehind, Trail.steps, Trail.names]
  rcases p.origin_cases with h | h <;> simp [h, Trail.pairedOff]

theorem isStep_of_mem_pairedOff {c : Component} (h : c ∈ p.trail.pairedOff.steps) : IsStep c := by
  rcases List.mem_append.mp h with h | h
  · rw [List.eq_of_mem_replicate h]
    exact isStep_up
  · obtain ⟨name, hname, rfl⟩ := List.mem_map.mp h
    rcases Trail.mem_place (List.mem_reverse.mp hname) with hnil | hname
    · cases hnil
    · exact isStep_of_mem_steps hname

/-! ## Folded paths -/

theorem folded_eq (p : Path) : p.folded = ofComponents (p.origin ++ p.trail.pairedOff.steps) := by
  rw [folded, foldComponents_components]

/-- **The components of a folded path.** -/
theorem components_folded (p : Path) : p.folded.components = p.origin ++ p.trail.pairedOff.steps := by
  rw [folded_eq]
  rcases p.origin_cases with h | h
  · rw [h]
    exact components_ofComponents_steps fun _ => isStep_of_mem_pairedOff
  · rw [h]
    exact components_ofComponents_root fun _ => isStep_of_mem_pairedOff

theorem isAbsolute_folded (hp : p.isAbsolute = true) : p.folded.isAbsolute = true := by
  rw [isAbsolute_iff_head?, components_folded, origin, if_pos hp]
  rfl

theorem steps_folded (p : Path) : p.folded.steps = p.trail.pairedOff.steps := by
  cases hp : p.isAbsolute with
  | true =>
    have hcomponents := components_folded p
    rw [components_of_isAbsolute (isAbsolute_folded hp), origin, if_pos hp] at hcomponents
    exact List.tail_eq_of_cons_eq hcomponents
  | false =>
    have horigin : p.origin = [] := by rw [origin, hp]; rfl
    rw [folded_eq, horigin]
    exact steps_ofComponents_steps fun _ => isStep_of_mem_pairedOff

/-- Steps of a path that do not lead up are names. -/
theorem exists_names (hup : .up ∉ p.steps) : ∃ names, p.steps = List.map Component.name names := by
  have hnames : ∀ c ∈ p.steps, Component.name c.text = c := fun c hc => by
    cases c with
    | root => exact absurd hc p.root_not_mem_steps
    | here => exact absurd hc p.here_not_mem_steps
    | up => exact absurd hc hup
    | name name => rfl
  have hmap : p.steps.map (fun c => Component.name c.text) = p.steps := by
    rw [List.map_congr_left hnames, List.map_id']
  exact ⟨p.steps.map (·.text), by rw [List.map_map]; exact hmap.symm⟩

/-- A path that leads nowhere up is not changed by folding. -/
theorem steps_folded_of_no_up (hup : .up ∉ p.steps) : p.folded.steps = p.steps := by
  obtain ⟨names, hnames⟩ := exists_names hup
  rw [steps_folded, trail, hnames, Trail.steps_pairedOff_names]

/-! ## Places -/

/-- The place to which a path leads from the root. Above the root is the root. -/
def place (p : Path) : Place :=
  Disk.follow [] p.steps

theorem place_join (base : Path) (hp : p.isAbsolute = false) :
    (base.join p).place = Disk.follow base.place p.steps := by
  rw [place, steps_join base hp, Disk.follow_append]
  rfl

/-- Paths that lead nowhere up lead to different places, unless they have the same steps. -/
theorem steps_eq_of_place_eq {q : Path} (hp : .up ∉ p.steps) (hq : .up ∉ q.steps) (h : p.place = q.place) :
    p.steps = q.steps := by
  have hplace : ∀ names : List (List Char), Disk.follow [] (names.map .name) = names.reverse := fun names => by
    simpa using Trail.follow_names [] names.reverse
  obtain ⟨names, hnames⟩ := exists_names hp
  obtain ⟨names', hnames'⟩ := exists_names hq
  rw [place, place, hnames, hnames', hplace, hplace] at h
  rw [hnames, hnames', List.reverse_injective h]

/-- **A folded path leads to the same place from the root.** -/
theorem place_folded (p : Path) : p.folded.place = p.place := by
  rw [place, steps_folded, Trail.follow_steps, place, Trail.follow_eq_place p.steps 0]
  rfl

end Path

end KanjiSearch
