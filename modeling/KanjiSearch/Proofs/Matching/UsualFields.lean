import KanjiSearch.Proofs.Lexer.FieldNames
import KanjiSearch.Proofs.Matching.LiteralText
import KanjiSearch.Proofs.Matching.Order

/-!
# Searches in the usual fields

A search without a field is short for one search in each of the usual fields with `|` between them, and a search for a
whole text is narrower than one for the text inside another.

* `holds_usual`, `holds_of_exact`: this of queries.
* `parseQuery_usual`, `parseQuery_usualFields`, `parseQuery_named`: the texts of these queries.
* `usual_search_union`: what follows for the texts of queries.
-/

open KanjiSearch.Parser KanjiSearch.Lexer

namespace KanjiSearch

/-! ## Queries -/

/-- A search in each of the usual fields. -/
def Query.inUsualFields (value : String) (exact : Bool) : Query :=
  or (or (or (search (.field .kanji) value exact) (search (.field .hanViet) value exact))
    (search (.field .meaning) value exact)) (search (.field .vietnameseMeaning) value exact)

/-- A search without a field looks at all usual fields. -/
theorem holds_usual (r : Fields) (value : String) (exact : Bool) :
    (Query.search .usual value exact).holds r = (Query.inUsualFields value exact).holds r := by
  simp only [Query.inUsualFields, Query.holds, Field.usual, List.any_cons, List.any_nil, Bool.or_false, Bool.or_assoc]

/-- A text that is another one stands in it. -/
theorem textMatches_of_exact {needle : List Char} {s : String} (h : textMatches needle true s = true) :
    textMatches needle false s = true := by
  rw [textMatches, Bool.and_eq_true, Bool.not_eq_true', ← Bool.not_eq_true, String.isEmpty_iff, if_pos rfl,
    beq_iff_eq] at h
  obtain ⟨hne, rfl⟩ := h
  exact textMatches_iff.mpr ⟨hne, List.infix_rfl⟩

theorem textsMatch_of_exact {needle : List Char} {value : FieldValue} (h : value.textsMatch needle true = true) :
    value.textsMatch needle false = true := by
  cases value with
  | text s => exact textMatches_of_exact h
  | list items =>
    obtain ⟨s, hs, hmatch⟩ := List.any_eq_true.mp h
    exact List.any_eq_true.mpr ⟨s, hs, textMatches_of_exact hmatch⟩
  | number n =>
    cases n with
    | none => cases h
    | some n => exact textMatches_of_exact h

/-- A search for a whole text is narrower than one for a part. -/
theorem holds_of_exact {r : Fields} {scope : Scope} {value : String}
    (h : (Query.search scope value true).holds r = true) : (Query.search scope value false).holds r = true := by
  cases scope with
  | usual =>
    obtain ⟨f, hf, hmatch⟩ := List.any_eq_true.mp h
    exact List.any_eq_true.mpr ⟨f, hf, textsMatch_of_exact hmatch⟩
  | field f => exact textsMatch_of_exact h

/-! ## Texts -/

/-- A text that is one token of a query, a bare word to look for. -/
def IsSearchWord (s : String) : Prop :=
  ∃ position ending, tokenize s = [⟨.text, s, position⟩, ⟨.eof, "", ending⟩]

theorem IsSearchWord.canonical {s : String} (h : IsSearchWord s) (scope : Scope) :
    (Query.search scope s false).Canonical := by
  obtain ⟨position, ending, htokens⟩ := h
  refine allLexical_tokensFrom 0 s.toList ⟨.text, s, position⟩ ?_
  rw [tokenize] at htokens
  rw [htokens]
  exact List.mem_cons_self

theorem IsSearchWord.isWord {s : String} (h : IsSearchWord s) : IsWord s.toList :=
  (h.canonical .usual).1

/-- What may be looked for in one place may be looked for in each. -/
theorem Query.Canonical.scope {scope scope' : Scope} {value : String} {exact : Bool}
    (h : (Query.search scope value exact).Canonical) : (Query.search scope' value exact).Canonical := by
  cases exact <;> exact h

/-- The text of a word or quotation behind each of the usual fields. -/
def usualFieldsText (s : String) : String :=
  "char:" ++ s ++ " | hv:" ++ s ++ " | en:" ++ s ++ " | vn:" ++ s

section Usual

variable {value s : String} {exact : Bool} (h : (Query.search .usual value exact).Canonical)
  (hs : s.toList = if exact then quoted value.toList else value.toList)
include h hs

theorem parseQuery_usual : parseQuery s = ⟨some (.search .usual value exact), []⟩ :=
  parseQuery_of_writes (writes_usual h) rfl hs

theorem parseQuery_usualFields : parseQuery (usualFieldsText s) = ⟨some (.inUsualFields value exact), []⟩ := by
  have hlayer : Layer.primary ≤ .conjunction := by decide
  have hcanonical : (Query.inUsualFields value exact).Canonical :=
    ⟨⟨⟨h.scope, h.scope, hlayer⟩, h.scope, hlayer⟩, h.scope, hlayer⟩
  refine parseQuery_of_writes hcanonical.writes rfl ?_
  have hspellings : Query.writtenField .kanji = "char:".toList ∧ Query.writtenField .hanViet = "hv:".toList ∧
      Query.writtenField .meaning = "en:".toList ∧ Query.writtenField .vietnameseMeaning = "vn:".toList :=
    ⟨rfl, rfl, rfl, rfl⟩
  obtain ⟨hkanji, hhanViet, hmeaning, hvietnamese⟩ := hspellings
  simp [usualFieldsText, Query.inUsualFields, Query.written, hkanji, hhanViet, hmeaning, hvietnamese, hs]

end Usual

/-- A search in a field, which may be spelt in any way. -/
theorem parseQuery_named {name value s : String} {f : Field} {exact : Bool} (hname : Field.ofSpelling? name = some f)
    (h : (Query.search (.field f) value exact).Canonical)
    (hs : s.toList = if exact then quoted value.toList else value.toList) :
    parseQuery (name ++ ":" ++ s) = ⟨some (.search (.field f) value exact), []⟩ := by
  obtain ⟨spelling, hlower, hword, hspelling⟩ := exists_spelling hname
  refine @parseQuery_of_writes .primary (name.toList ++ ':' :: s.toList) _ (fun position => ?_) rfl _ (by simp)
  rw [lexemesFrom_fieldName hlower hword hspelling, hs]
  exact .field rfl (writesValue_search h _)

/-- A word is quoted as it stands. -/
theorem quoted_of_isWord {word : List Char} (h : IsWord word) : quoted word = '"' :: (word ++ ['"']) := by
  have hplain : ∀ c ∈ word, (if c = '"' then ['\\', '"'] else [c]) = [c] := by
    intro c hc
    rw [if_neg]
    rintro rfl
    exact absurd (h.2 _ hc) (by decide)
  rw [quoted, List.flatMap_congr hplain, List.flatMap_singleton']

/-! ## Searches -/

/-- Both texts are queries without faults, and they match the same records. -/
def MatchesAlike (a b : String) : Prop :=
  ∃ q q', parseQuery a = ⟨some q, []⟩ ∧ parseQuery b = ⟨some q', []⟩ ∧ ∀ r : Fields, q.holds r = q'.holds r

/-- Both texts are queries without faults, and all records that the first one matches are matched by the second one. -/
def MatchesWithin (a b : String) : Prop :=
  ∃ q q', parseQuery a = ⟨some q, []⟩ ∧ parseQuery b = ⟨some q', []⟩ ∧
    ∀ r : Fields, q.holds r = true → q'.holds r = true

/-- **A search without a field is the union of the searches in the usual fields**, and quotes only narrow a search
behind any spelling of a field. -/
theorem usual_search_union :
    (∀ s, IsSearchWord s → MatchesAlike s (usualFieldsText s)) ∧
    (∀ value : String, value.toList.getLast? ≠ some '\\' →
      MatchesAlike (String.ofList (quoted value.toList)) (usualFieldsText (String.ofList (quoted value.toList)))) ∧
    (∀ name s f, Field.ofSpelling? name = some f → IsSearchWord s → s.toList.getLast? ≠ some '\\' →
      MatchesWithin (name ++ ":\"" ++ s ++ "\"") (name ++ ":" ++ s)) := by
  have hunion : ∀ {value s : String} {exact : Bool}, (Query.search .usual value exact).Canonical →
      s.toList = (if exact then quoted value.toList else value.toList) → MatchesAlike s (usualFieldsText s) :=
    fun h hs => ⟨_, _, parseQuery_usual h hs, parseQuery_usualFields h hs, fun r => holds_usual r _ _⟩
  refine ⟨fun s h => hunion (h.canonical .usual) rfl, fun value h => @hunion value _ true h String.toList_ofList,
    fun name s f hname h hlast => ?_⟩
  have htext : name ++ ":\"" ++ s ++ "\"" = name ++ ":" ++ ("\"" ++ s ++ "\"") := by
    rw [← String.toList_inj]
    simp
  refine ⟨_, _, ?_, parseQuery_named hname (h.canonical _) rfl, fun r hr => holds_of_exact hr⟩
  rw [htext]
  exact parseQuery_named hname hlast (by simp [quoted_of_isWord h.isWord])

/-- A word that looks like a level, a quotation with quotes in it, and a field in capital letters. -/
theorem usual_search_union_words :
    MatchesAlike "N3" "char:N3 | hv:N3 | en:N3 | vn:N3" ∧
    MatchesAlike "\"the \\\"sun\\\"\"" (usualFieldsText "\"the \\\"sun\\\"\"") ∧
    MatchesWithin "JLPT:\"N3\"" "JLPT:N3" := by
  have hword : IsSearchWord "N3" := ⟨0, 2, by decide +kernel⟩
  exact ⟨usual_search_union.1 "N3" hword, usual_search_union.2.1 "the \"sun\"" (by decide),
    usual_search_union.2.2 "JLPT" "N3" .jlptLevel rfl hword (by decide)⟩

end KanjiSearch
