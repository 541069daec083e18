import KanjiSearch.Proofs.Lists
import KanjiSearch.Proofs.Text.LetterCase
import KanjiSearch.Proofs.Text.Pieces
import KanjiSearch.Query.Matching

/-!
# Literal text

A search compares the lower cases of two texts, each taken on its own. So a piece of a text is found where it stands if
each of its `Σ` ends a word there as it does in the piece alone, and what stands around a piece can only hide it if
some `Σ` may end a word in one surrounding and not in another.

* `lower_infix_lower`: a piece is found where it stands.
* `sameSigmas_of_infix`: a piece that is found behind a letter and in front of one has its lower case everywhere.
* `literal_text_found`: a piece is found if each of its `Σ` ends a word in the text exactly if it does so in the piece.
  The pieces that are found in all texts that hold them are those for which this is so in all surroundings.
* `literal_text_missed`: a text that is not found in a field that holds it.
-/

namespace KanjiSearch

/-! ## Pieces that are found -/

/-- The texts of a field. -/
def FieldValue.texts : FieldValue → List String
  | text s => [s]
  | list items => items
  | number _ => []

theorem textMatches_iff {needle : List Char} {s : String} :
    textMatches needle false s = true ↔ s ≠ "" ∧ needle <:+: Text.lower s.toList := by
  rw [textMatches, Bool.and_eq_true, Bool.not_eq_true', ← Bool.not_eq_true, String.isEmpty_iff,
    if_neg Bool.false_ne_true, Text.hasPiece_iff]

/-- A text of a field that matches is a match of the field. -/
theorem textsMatch_of_mem {value : FieldValue} {v : String} (hv : v ∈ value.texts) {needle : List Char} {exact : Bool}
    (h : textMatches needle exact v = true) : value.textsMatch needle exact = true := by
  cases value with
  | text s =>
    obtain rfl := List.mem_singleton.mp hv
    exact h
  | list items => exact List.any_eq_true.mpr ⟨v, hv, h⟩
  | number n => cases hv

/-- A piece is found where it stands if its `Σ` have the same lower case there as in the piece alone. -/
theorem lower_infix_lower {before piece after : List Char} (h : Text.SameSigmas piece before.reverse after [] []) :
    Text.lower piece <:+: Text.lower (before ++ piece ++ after) := by
  have hplace := Text.lowerBetween_eq_iff.mpr h
  rw [Text.lowerBetween_nil] at hplace
  rw [List.append_assoc, Text.lower, Text.lower, Text.lowerAfter_append, Text.lowerAfter_append, List.append_nil,
    hplace]
  exact List.infix_append' ..

/-! ## Pieces that are hidden -/

section Around

open Text

variable {left right : List Char}

/-- A text around a `Σ`, in lower case. -/
theorem lowerBetween_sigma (before left right after : List Char) :
    lowerBetween before (left ++ 'Σ' :: right) after = lowerBetween before left ('Σ' :: right ++ after) ++
      (if endsWord (left.reverse ++ before) (right ++ after) then 'ς' else 'σ') ::
        lowerBetween ('Σ' :: (left.reverse ++ before)) right after := by
  rw [lowerBetween_append, lowerBetween, if_pos rfl]
  rfl

theorem not_mem_of_all {cs : List Char} (h : cs.all isCaseIgnorable = true) : 'Σ' ∉ cs :=
  fun hmem => absurd (List.all_eq_true.mp h _ hmem) (by decide)

/-- With nothing that counts before it, a `Σ` ends no word, but behind a letter it may. -/
theorem not_infix_behind_letter (hleft : left.all isCaseIgnorable = true) (hright : meetsCased right = false) :
    ¬ lower (left ++ 'Σ' :: right) <:+: lower ('a' :: (left ++ 'Σ' :: right)) := by
  have hreverse : left.reverse.all isCaseIgnorable = true := by rwa [List.all_reverse]
  have hfront : lowerBetween ['a'] left ('Σ' :: right ++ []) = lowerBetween [] left ('Σ' :: right ++ []) :=
    lowerBetween_eq_iff.mpr (sameSigmas_of_not_mem (not_mem_of_all hleft))
  have halone : endsWord (left.reverse ++ []) (right ++ []) = false := by
    rw [List.append_nil, endsWord, meetsCased_of_all hreverse, Bool.false_and]
  have hbehind : endsWord (left.reverse ++ ['a']) (right ++ []) = true := by
    rw [List.append_nil, endsWord, meetsCased_append, if_pos hreverse, hright]
    decide
  have hletter : lower ('a' :: (left ++ 'Σ' :: right)) = 'a' :: lowerAfter ['a'] (left ++ 'Σ' :: right) := rfl
  rw [hletter, lower, ← lowerBetween_nil, ← lowerBetween_nil, lowerBetween_sigma, lowerBetween_sigma, hfront, halone,
    hbehind]
  exact not_infix_cons (length_lowerBetween ..) (by decide) (by decide)

/-- With nothing that counts behind it, a `Σ` may end a word, but before a letter it does not. -/
theorem not_infix_before_letter (hleft : meetsCased left.reverse = true) (hright : right.all isCaseIgnorable = true) :
    ¬ lower (left ++ 'Σ' :: right) <:+: lower ((left ++ 'Σ' :: right) ++ ['a']) := by
  have hback : lowerBetween ('Σ' :: (left.reverse ++ [])) right ['a'] =
      lowerBetween ('Σ' :: (left.reverse ++ [])) right [] :=
    lowerBetween_eq_iff.mpr (sameSigmas_of_not_mem (not_mem_of_all hright))
  have halone : endsWord (left.reverse ++ []) (right ++ []) = true := by
    rw [List.append_nil, List.append_nil, endsWord, hleft, meetsCased_of_all hright]
    rfl
  have hbefore : endsWord (left.reverse ++ []) (right ++ ['a']) = false := by
    rw [List.append_nil, endsWord, hleft, meetsCased_append, if_pos hright]
    decide
  have hletter : lower ((left ++ 'Σ' :: right) ++ ['a']) = lowerBetween [] (left ++ 'Σ' :: right) ['a'] ++ ['a'] :=
    lowerAfter_append ..
  rw [hletter, lower, ← lowerBetween_nil, lowerBetween_sigma, lowerBetween_sigma, hback, halone, hbefore]
  exact not_infix_concat (length_lowerBetween ..) (by decide) (by decide)

/-- A piece that is found behind a letter and in front of one has the same lower case everywhere. -/
theorem sameSigmas_of_infix {piece : List Char} (hbehind : lower piece <:+: lower ('a' :: piece))
    (hbefore : lower piece <:+: lower (piece ++ ['a'])) (before after : List Char) :
    SameSigmas piece before after [] [] := by
  rintro left right rfl
  rw [List.append_nil, List.append_nil, endsWord, endsWord, meetsCased_append, meetsCased_append right]
  by_cases hleft : left.all isCaseIgnorable = true
  · have hright : meetsCased right = true := by
      by_contra hnone
      exact not_infix_behind_letter hleft (eq_false_of_ne_true hnone) hbehind
    have hcounts : ¬ right.all isCaseIgnorable = true := fun hall => by
      rw [meetsCased_of_all hall] at hright
      cases hright
    rw [if_neg hcounts, hright, Bool.not_true, Bool.and_false, Bool.and_false]
  · rw [if_neg (by rwa [List.all_reverse])]
    by_cases hright : right.all isCaseIgnorable = true
    · have hnone : meetsCased left.reverse = false := by
        by_contra hcased
        exact not_infix_before_letter (eq_true_of_ne_false hcased) hright hbefore
      rw [hnone, Bool.false_and, Bool.false_and]
    · rw [if_neg hright]

end Around

/-! ## Searches -/

/-- **Text that stands literally in a field is found, unless the lower case of a `Σ` hides it.** -/
theorem literal_text_found (piece : String) :
    (∀ (r : Fields) (f : Field) (v : String) (before after : List Char), v ∈ (r f).texts → v ≠ "" →
      v.toList = before ++ piece.toList ++ after → Text.SameSigmas piece.toList before.reverse after [] [] →
      (Query.search (.field f) piece false).holds r = true) ∧
    ((∀ (r : Record) (f : Field) (v : String), v ∈ (r.fields f).texts → v ≠ "" → piece.toList <:+: v.toList →
        (Query.search (.field f) piece false).holds r.fields = true) ↔
      ∀ before after, Text.SameSigmas piece.toList before after [] []) := by
  have hfound : ∀ (r : Fields) (f : Field) (v : String) (before after : List Char), v ∈ (r f).texts → v ≠ "" →
      v.toList = before ++ piece.toList ++ after → Text.SameSigmas piece.toList before.reverse after [] [] →
      (Query.search (.field f) piece false).holds r = true := by
    intro r f v before after hv hne hsplit hsame
    refine textsMatch_of_mem hv (textMatches_iff.mpr ⟨hne, ?_⟩)
    rw [hsplit]
    exact lower_infix_lower hsame
  refine ⟨hfound, fun h => ?_, fun h r f v hv hne ⟨before, after, hsplit⟩ => ?_⟩
  · -- One letter before the piece or behind it shows all that the surroundings may do.
    have hmeaning : ∀ v : String, v ≠ "" → piece.toList <:+: v.toList →
        Text.lower piece.toList <:+: Text.lower v.toList := fun v hne hpiece =>
      (textMatches_iff.mp (h { kanji := "", meaning := v } .meaning v List.mem_cons_self hne hpiece)).2
    have hbehind := hmeaning (String.ofList ('a' :: piece.toList)) (by simp)
    have hbefore := hmeaning (String.ofList (piece.toList ++ ['a'])) (by simp)
    rw [String.toList_ofList] at hbehind hbefore
    exact sameSigmas_of_infix (hbehind (List.infix_cons List.infix_rfl)) (hbefore List.infix_append_left)
  · exact hfound r.fields f v before after hv hne hsplit.symm (h _ _)

/-- A word that ends with `Σ` in a text where another one follows. -/
theorem literal_text_found_word :
    (Query.search (.field .onyomi) "ΟΔΥΣΣΕΥΣ" false).holds
      (Record.fields { kanji := "火", onyomi := ["カ", "ΟΔΥΣΣΕΥΣ, Ο"] }) = true := by
  have hsame : Text.SameSigmas "ΟΔΥΣΣΕΥΣ".toList [] ", Ο".toList [] [] :=
    Text.lowerBetween_eq_iff.mp rfl
  exact (literal_text_found "ΟΔΥΣΣΕΥΣ").1 _ .onyomi "ΟΔΥΣΣΕΥΣ, Ο" [] ", Ο".toList (by decide) (by decide) (by decide)
    hsame

/-- A field that holds a text of which a search does not find the first half: its `Σ` ends a word there, but none in the
field. -/
theorem literal_text_missed :
    "ΑΣΑ" ∈ (Record.fields { kanji := "火", meaning := "ΑΣΑ" } .meaning).texts ∧ "ΑΣ".toList <:+: "ΑΣΑ".toList ∧
      (Query.search (.field .meaning) "ΑΣ" false).holds (Record.fields { kanji := "火", meaning := "ΑΣΑ" }) = false :=
  ⟨by decide, ⟨[], ['Α'], by decide⟩, rfl⟩

end KanjiSearch
