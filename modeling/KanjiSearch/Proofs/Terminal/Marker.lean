import KanjiSearch.Terminal.Marker

/-!
# Marks and carets

A place in a text is shown by a mark in it and by a caret below it. `Marks text position before cell after` says where
the mark stands: at the character of the place, or, for a place behind the text, at a space directly behind the text.

* `exists_marks`, `markChar_of_marks`: each place has one mark, and it is what `markChar` writes.
* `columnOf_of_marks`: the caret is as far to the right as the text before the mark is wide, and further to the right by
  the distance of a place behind the text.
* `caret_under_mark_iff`: so the two agree exactly for the places of the text and its end.
* `caret_beyond_mark`: a place further behind the text, where they do not.
-/

namespace KanjiSearch.Terminal

/-- `n` empty columns. -/
def columns (n : Nat) : String :=
  String.ofList (List.replicate n ' ')

/-- The mark for `position` is at `cell`, with `before` before it and `after` behind it. -/
inductive Marks (text : List Char) (position : Nat) : List Char → Char → List Char → Prop
  | inside {before cell after} : text = before ++ cell :: after → before.length = position →
      Marks text position before cell after
  /-- a space at the end stands for all places behind the text -/
  | behind : text.length ≤ position → Marks text position text ' ' []

variable {text : String} {position : Nat} {before after : List Char} {cell : Char}

theorem exists_marks (text : List Char) (position : Nat) :
    ∃ before cell after, Marks text position before cell after := by
  by_cases h : position < text.length
  · refine ⟨text.take position, text[position], text.drop (position + 1), .inside ?_ ?_⟩
    · rw [List.getElem_cons_drop, List.take_append_drop]
    · rw [List.length_take]
      omega
  · exact ⟨text, ' ', [], .behind (Nat.le_of_not_lt h)⟩

/-- The text before a mark is as much of the text as stands before its place. -/
theorem Marks.before_eq {text : List Char} (h : Marks text position before cell after) :
    text.take position = before := by
  cases h with
  | inside htext hlength => rw [htext, ← hlength, List.take_left]
  | behind hlength => exact List.take_of_length_le hlength

/-- **What `markChar` writes**: the text, with the mark at its place. -/
theorem markChar_of_marks (h : Marks text.toList position before cell after) : markChar text position =
    String.ofList before ++ Style.marked.apply (String.ofList [cell]) ++ String.ofList after := by
  have htake := h.before_eq
  cases h with
  | inside htext hlength =>
    have hdrop : text.toList.drop position = cell :: after := by rw [htext, ← hlength, List.drop_left]
    simp only [markChar, hdrop, htake]
  | behind hlength =>
    have hdrop : text.toList.drop position = [] := List.drop_eq_nil_of_le hlength
    simp [markChar, hdrop]

theorem columnOf_of_marks (h : Marks text.toList position before cell after) :
    columnOf text position = Text.width before + (position - text.length) := by
  rw [columnOf, h.before_eq, String.length_toList]

theorem columnOf_of_le (h : position ≤ text.length) :
    columnOf text position = Text.width (text.toList.take position) := by
  rw [columnOf, String.length_toList, Nat.sub_eq_zero_of_le h, Nat.add_zero]

/-- **The caret stands under the mark exactly for the places of a text and its end.** Further behind it has one more
column for each character. -/
theorem caret_under_mark_iff (text : String) (position : Nat) : ∃ before cell after,
    Marks text.toList position before cell after ∧
    markChar text position =
      String.ofList before ++ Style.marked.apply (String.ofList [cell]) ++ String.ofList after ∧
    ∃ column, caretLine text position = columns column ++ Style.error.apply "^" ∧
      column = Text.width before + (position - text.length) ∧
      (column = Text.width before ↔ position ≤ text.length) := by
  obtain ⟨before, cell, after, h⟩ := exists_marks text.toList position
  have hcolumn := columnOf_of_marks h
  refine ⟨before, cell, after, h, markChar_of_marks h, columnOf text position, rfl, hcolumn, ?_⟩
  rw [hcolumn]
  omega

/-- A place one character behind the end of a text: the mark stands at the end, and the caret one column further on. -/
theorem caret_beyond_mark : markChar "en:" 4 = "en:" ++ Style.marked.apply " " ∧ Text.width "en:".toList = 3 ∧
    caretLine "en:" 4 = columns 4 ++ Style.error.apply "^" := by
  decide +kernel

end KanjiSearch.Terminal
