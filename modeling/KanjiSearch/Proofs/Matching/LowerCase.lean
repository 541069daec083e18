import KanjiSearch.Proofs.Grammar.Course
import KanjiSearch.Proofs.Text.LetterCase
import KanjiSearch.Query.Matching

/-!
# Matching in lower case

Searches compare texts in lower case, which is reached in one step. So the values of searches may be put in lower case
beforehand, wherever they stand in a query (`holds_lowered`), and so may the texts of a record as far as a query only
searches (`holds_fieldsLowered`). Other tests read a number from a text, in which case may count.

The texts that are empty in lower case, which never match, are those that were empty before.
-/

namespace KanjiSearch

/-! ## Lower case of queries and records -/

/-- A query with all texts that it looks for in lower case. -/
def Query.lowered : Query → Query
  | and left right => and left.lowered right.lowered
  | or left right => or left.lowered right.lowered
  | not inner => not inner.lowered
  | group inner => group inner.lowered
  | search scope value exact => search scope (Text.lowerString value) exact
  | compare op f value => compare op f value
  | range f min max => range f min max

/-- Whether this is a search for a text. -/
def Query.isSearch : Query → Bool
  | search .. => true
  | _ => false

/-- A value with its texts in lower case. -/
def FieldValue.lowered : FieldValue → FieldValue
  | text s => text (Text.lowerString s)
  | list items => list (items.map Text.lowerString)
  | number n => number n

/-- A record, as queries see it, with all texts in lower case. -/
def fieldsLowered (r : Fields) : Fields :=
  fun f => (r f).lowered

/-- A record with all texts in lower case. -/
def Record.lowered (r : Record) : Record where
  kanji := Text.lowerString r.kanji
  hanViet := Text.lowerString r.hanViet
  meaning := Text.lowerString r.meaning
  vietnameseMeaning := Text.lowerString r.vietnameseMeaning
  onyomi := r.onyomi.map Text.lowerString
  kunyomi := r.kunyomi.map Text.lowerString
  components := Text.lowerString r.components
  jlptLevel := Text.lowerString r.jlptLevel
  frequency := r.frequency
  category := r.category.map Text.lowerString

theorem Record.fields_lowered (r : Record) : r.lowered.fields = fieldsLowered r.fields := by
  funext f
  cases f <;> rfl

/-! ## Matches -/

/-- A text matches exactly if its lower case does. -/
theorem textMatches_lowerString (needle : List Char) (exact : Bool) (s : String) :
    textMatches needle exact (Text.lowerString s) = textMatches needle exact s := by
  have hempty : (Text.lowerString s).isEmpty = s.isEmpty := by
    rw [Bool.eq_iff_iff, String.isEmpty_iff, String.isEmpty_iff, Text.lowerString_eq_empty_iff]
  rw [textMatches, textMatches, hempty, Text.lower_lowerString]

theorem textsMatch_lowered (needle : List Char) (exact : Bool) (value : FieldValue) :
    value.lowered.textsMatch needle exact = value.textsMatch needle exact := by
  cases value with
  | text s => exact textMatches_lowerString needle exact s
  | list items =>
    rw [FieldValue.lowered, FieldValue.textsMatch, FieldValue.textsMatch, List.any_map]
    exact congrArg items.any (funext (textMatches_lowerString needle exact))
  | number n => rfl

/-- The texts that a query looks for may be in lower case. -/
theorem holds_lowered (r : Fields) (q : Query) : q.lowered.holds r = q.holds r := by
  induction q with
  | and left right ihl ihr | or left right ihl ihr => rw [Query.lowered, Query.holds, Query.holds, ihl, ihr]
  | not inner ih => rw [Query.lowered, Query.holds, Query.holds, ih]
  | group inner ih => exact ih
  | compare | range => rfl
  | search scope value exact => cases scope <;> simp only [Query.lowered, Query.holds, Text.lower_lowerString]

/-- The texts of a record may be in lower case where a query only searches. -/
theorem holds_fieldsLowered (r : Fields) {q : Query} (h : ∀ t ∈ q.tests, t.isSearch = true) :
    q.holds (fieldsLowered r) = q.holds r := by
  induction q with
  | and left right ihl ihr | or left right ihl ihr =>
    obtain ⟨hleft, hright⟩ := List.forall_mem_append.mp h
    rw [Query.holds, Query.holds, ihl hleft, ihr hright]
  | not inner ih => rw [Query.holds, Query.holds, ih h]
  | group inner ih => exact ih h
  | compare | range => cases h _ List.mem_cons_self
  | search scope value exact => cases scope <;> simp only [Query.holds, fieldsLowered, textsMatch_lowered]

/-- **Lower case changes no match**, be it of the texts that a query looks for or, where it looks only for texts, of
those in a record. -/
theorem matches_in_lower_case :
    (∀ (q : Query) (r : Fields), q.lowered.holds r = q.holds r) ∧
    (∀ q : Query, (∀ t ∈ q.tests, t.isSearch = true) →
      (∀ r : Fields, q.holds (fieldsLowered r) = q.holds r) ∧
      (∀ r : Record, q.holds r.lowered.fields = q.holds r.fields)) ∧
    (∀ s : String, Text.lowerString s = "" ↔ s = "") := by
  refine ⟨fun q r => holds_lowered r q, fun q h => ⟨fun r => holds_fieldsLowered r h, fun r => ?_⟩,
    fun s => Text.lowerString_eq_empty_iff⟩
  rw [Record.fields_lowered]
  exact holds_fieldsLowered r.fields h

/-- A name in lower case, and another one that is not there. -/
theorem matches_in_lower_case_names :
    (Query.and (.search (.field .kunyomi) "οδυσσευς" true) (.not (.search .usual "İmi" false))).holds
      (Record.fields (.lowered { kanji := "火", meaning := "Imi", kunyomi := ["ka", "ΟΔΥΣΣΕΥΣ"] })) = true :=
  ((matches_in_lower_case.2.1 _ (by decide)).2 _).trans rfl

end KanjiSearch
