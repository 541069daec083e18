import KanjiSearch.Proofs.Path.Components

/-!
# Paths written by their components

A row of steps, with or without the root in front, is the row of components of the path that is written by it
(`components_ofComponents`), if each step is written as a piece of a path (`IsStep`). The steps of paths are
(`isStep_of_mem_steps`).
-/

namespace KanjiSearch.Path

variable {p : Path} {c : Component} {steps : List Component}

/-- A component that is read again from its text between slashes. -/
def IsStep (c : Component) : Prop :=
  step? c.text = some c ∧ '/' ∉ c.text

theorem text_of_step? {piece : List Char} (h : step? piece = some c) : c.text = piece := by
  unfold step? at h
  split at h
  · cases h
  · split at h
    · next hup =>
      cases h
      exact hup.symm
    · cases h
      rfl

theorem isStep_of_mem_steps (h : c ∈ p.steps) : IsStep c := by
  obtain ⟨piece, hpiece, hstep⟩ := List.mem_filterMap.mp h
  rw [IsStep, text_of_step? hstep]
  exact ⟨hstep, slash_not_mem p piece hpiece⟩

theorem isStep_up : IsStep .up := by
  unfold IsStep
  decide

theorem IsStep.text_ne_nil (h : IsStep c) : c.text ≠ [] := fun htext => by
  have hstep := h.1
  rw [htext] at hstep
  cases hstep

theorem IsStep.text_ne_dot (h : IsStep c) : c.text ≠ ['.'] := fun htext => by
  have hstep := h.1
  rw [htext] at hstep
  cases hstep

theorem filterMap_texts (h : ∀ c ∈ steps, IsStep c) : (steps.map (·.text)).filterMap step? = steps := by
  induction steps with
  | nil => rfl
  | cons c steps ih =>
    obtain ⟨hc, hsteps⟩ := List.forall_mem_cons.mp h
    rw [List.map_cons, List.filterMap_cons_some hc.1, ih hsteps]

theorem slash_not_mem_texts (h : ∀ c ∈ steps, IsStep c) : ∀ piece ∈ steps.map (·.text), '/' ∉ piece :=
  List.forall_mem_map.mpr fun c hc => (h c hc).2

/-! ## From the root -/

theorem ofComponents_root (steps : List Component) :
    ofComponents (.root :: steps) = ofPieces ([] :: steps.map (·.text)) := by
  cases steps with
  | nil => rfl
  | cons c steps =>
    rw [ofComponents, ofPieces]
    · rfl
    · simp
    · simp

theorem slash_not_mem_root (h : ∀ c ∈ steps, IsStep c) : ∀ piece ∈ [] :: steps.map (·.text), '/' ∉ piece :=
  List.forall_mem_cons.mpr ⟨List.not_mem_nil, slash_not_mem_texts h⟩

theorem components_ofComponents_root (h : ∀ c ∈ steps, IsStep c) :
    (ofComponents (.root :: steps)).components = .root :: steps := by
  rw [ofComponents_root, components_ofPieces (slash_not_mem_root h), List.filterMap_cons_none rfl, filterMap_texts h]
  rfl

/-- No dot is written. -/
theorem dot_not_mem_pieces (h : ∀ c ∈ steps, IsStep c) : ['.'] ∉ (ofComponents (.root :: steps)).pieces := by
  rw [ofComponents_root]
  cases steps with
  | nil => decide
  | cons c steps =>
    rw [pieces_ofPieces (slash_not_mem_root h) (by simp), List.mem_cons, not_or, List.mem_map]
    refine ⟨by simp, ?_⟩
    rintro ⟨c, hc, htext⟩
    exact (h c hc).text_ne_dot htext

/-! ## From a directory -/

theorem ofComponents_steps (h : ∀ c ∈ steps, IsStep c) :
    ofComponents steps = ⟨List.intercalate ['/'] (steps.map (·.text))⟩ := by
  rw [ofComponents]
  rintro rfl
  exact (h .root List.mem_cons_self).text_ne_nil rfl

theorem pieces_ofComponents_steps (h : ∀ c ∈ steps, IsStep c) (hne : steps ≠ []) :
    (ofComponents steps).pieces = steps.map (·.text) := by
  rw [ofComponents_steps h]
  exact List.splitOn_intercalate _ (slash_not_mem_texts h) (by simpa using hne)

theorem start_ofComponents_steps (h : ∀ c ∈ steps, IsStep c) : (ofComponents steps).start = [] := by
  by_cases hne : steps = []
  · subst hne
    rfl
  · obtain ⟨c, steps, rfl⟩ := List.exists_cons_of_ne_nil hne
    exact start_of_step (pieces_ofComponents_steps h hne) (h c List.mem_cons_self).1

theorem steps_ofComponents_steps (h : ∀ c ∈ steps, IsStep c) : (ofComponents steps).steps = steps := by
  by_cases hne : steps = []
  · subst hne
    rfl
  · rw [Path.steps, pieces_ofComponents_steps h hne, filterMap_texts h]

theorem components_ofComponents_steps (h : ∀ c ∈ steps, IsStep c) : (ofComponents steps).components = steps := by
  rw [components_of_start (start_ofComponents_steps h)]
  exact steps_ofComponents_steps h

end KanjiSearch.Path
