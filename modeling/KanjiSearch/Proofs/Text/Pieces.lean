import KanjiSearch.Text.Pieces

/-!
# Pieces of a text

`splitOnce` cuts a text at its first mark and nowhere else (`splitOnce_append`, `append_mark_inj`, `eq_of_splitOnce`).
Texts with a line break behind each are the lines of the joined text (`lines_flatMap`). A piece is found where it stands
(`hasPiece_iff`).
-/

namespace KanjiSearch.Text

variable {mark : Char} {cs : List Char}

/-! ## Cutting at the first mark -/

theorem splitOnce_eq_none (h : mark ∉ cs) : splitOnce mark cs = none := by
  induction cs with
  | nil => rfl
  | cons c cs ih =>
    rw [List.mem_cons, not_or] at h
    rw [splitOnce, if_neg (Ne.symm h.1), ih h.2]
    rfl

theorem not_mem_of_splitOnce (h : splitOnce mark cs = none) : mark ∉ cs := by
  induction cs with
  | nil => exact List.not_mem_nil
  | cons c cs ih =>
    rw [splitOnce] at h
    split at h
    · cases h
    · next hc => exact List.not_mem_cons_of_ne_of_not_mem (Ne.symm hc) (ih (Option.map_eq_none_iff.mp h))

theorem splitOnce_append {before : List Char} (h : mark ∉ before) (after : List Char) :
    splitOnce mark (before ++ mark :: after) = some (before, after) := by
  induction before with
  | nil => simp [splitOnce]
  | cons c cs ih =>
    rw [List.mem_cons, not_or] at h
    rw [List.cons_append, splitOnce, if_neg (Ne.symm h.1), ih h.2]
    rfl

/-- A text is cut at its first mark in one way only. -/
theorem append_mark_inj {before before' after after' : List Char} (h : mark ∉ before)
    (h' : mark ∉ before') (heq : before ++ mark :: after = before' ++ mark :: after') :
    before = before' ∧ after = after' := by
  have hsplit := splitOnce_append h after
  rw [heq, splitOnce_append h'] at hsplit
  exact Prod.mk.inj (Option.some.inj hsplit.symm)

theorem eq_of_splitOnce {before after : List Char} (h : splitOnce mark cs = some (before, after)) :
    cs = before ++ mark :: after := by
  induction cs generalizing before with
  | nil => cases h
  | cons c cs ih =>
    rw [splitOnce] at h
    split at h
    · next hc => cases h; rw [hc]; rfl
    · obtain ⟨⟨b, a⟩, hb, heq⟩ := Option.map_eq_some_iff.mp h
      cases heq
      rw [ih hb]; rfl

/-! ## Lines -/

/-- Texts without line breaks, each with a line break behind it, are the lines of the joined text. -/
theorem lines_flatMap {rows : List (List Char)} (h : ∀ row ∈ rows, '\n' ∉ row) :
    lines (rows.flatMap (· ++ ['\n'])) = rows := by
  have hpieces : (rows.flatMap (· ++ ['\n'])).splitOn '\n' = rows ++ [[]] := by
    induction rows with
    | nil => rfl
    | cons row rows ih =>
      obtain ⟨hrow, hrows⟩ := List.forall_mem_cons.mp h
      rw [List.flatMap_cons, List.append_assoc, List.singleton_append,
        List.splitOn_append_cons_self_of_not_mem hrow, ih hrows]
      rfl
  simp [lines, hpieces]

/-! ## Pieces that stand somewhere -/

theorem hasPiece_iff {piece : List Char} : hasPiece piece cs = true ↔ piece <:+: cs := by
  induction cs with
  | nil => rw [hasPiece, List.isEmpty_iff, List.infix_nil]
  | cons c cs ih => rw [hasPiece, Bool.or_eq_true, List.isPrefixOf_iff_prefix, ih, List.infix_cons_iff]

end KanjiSearch.Text
