import KanjiSearch.Proofs.Grammar.Canonical
import KanjiSearch.Proofs.Grammar.Composition
import Mathlib.Tactic.IntervalCases
import Mathlib.Tactic.TFAE

/-!
# Written queries read back

The text of a canonical query spells this query, at the layer at which it is built.

* `lexemesFrom_word`, `lexemesFrom_quoted`, `lexemesFrom_writtenField`: the tokens of the parts of a test.
* `Query.Canonical.writes`: the text of a canonical query spells it.
* `written_tfae`: the queries that are read, that read back from their text and that are canonical are the same.
-/

open KanjiSearch.Parser KanjiSearch.Lexer

namespace KanjiSearch

/-! ## Words and quotations -/

theorem isBoundary_of_isDigit {c : Char} (h : c.isDigit = true) : isBoundary c = false := by
  have hlow := Text.le_toNat_of_isDigit h
  have hhigh := Text.toNat_le_of_isDigit h
  rw [← Char.ofNat_toNat c]
  generalize c.toNat = n at hlow hhigh
  interval_cases n <;> decide

theorem isWord_of_isNumber {cs : List Char} (h : Text.isNumber cs = true) : IsWord cs :=
  ⟨(Text.isNumber_iff.mp h).1, fun c hc => isBoundary_of_isDigit ((Text.isNumber_iff.mp h).2 c hc)⟩

theorem Lexer.IsSpan.isWord {cs : List Char} (h : IsSpan cs) : IsWord cs := by
  obtain ⟨low, high, rfl, hlow, hhigh⟩ := h
  refine ⟨by simp, fun c hc => ?_⟩
  rcases List.mem_append.mp hc with hc | hc
  · exact (isWord_of_isNumber hlow).2 c hc
  rcases List.mem_cons.mp hc with rfl | hc
  · decide
  · exact (isWord_of_isNumber hhigh).2 c hc

theorem lexemesFrom_word {word : List Char} {kind : TokenKind} (hword : IsWord word) (hkind : Classified word kind)
    (position : Nat) : lexemesFrom position word = [⟨kind, String.ofList word, position⟩] := by
  have h := lexemesFrom_lexeme (.word hword endsWord_nil hkind) position
  rwa [List.append_nil, lexemesFrom_nil] at h

theorem lexemesFrom_decimal (n position : Nat) :
    lexemesFrom position (Text.decimal n) = [⟨.number, String.ofList (Text.decimal n), position⟩] :=
  lexemesFrom_word (isWord_of_isNumber (Text.isNumber_decimal n)) (.number (Text.isNumber_decimal n)) position

theorem lexemesFrom_quoted {value : List Char} (h : value.getLast? ≠ some '\\') (position : Nat) :
    lexemesFrom position (quoted value) = [⟨.quoted, String.ofList value, position⟩] := by
  have hlexeme := lexemesFrom_lexeme (.quotation [] (quotable_escaped h)) position
  rwa [List.append_nil, lexemesFrom_nil, ← quoted_eq, unescaped_escaped] at hlexeme

/-! ## Parts of tests -/

theorem ofSpelling?_shortSpelling (f : Field) :
    Field.ofSpelling? (String.ofList (Text.lower f.shortSpelling.toList)) = some f := by
  cases f <;> rfl

theorem isWord_shortSpelling (f : Field) : IsWord f.shortSpelling.toList := by
  cases f <;> decide

theorem lexemesFrom_writtenField (f : Field) (position : Nat) (cs : List Char) :
    ∃ t, t.kind = .field f ∧ lexemesFrom position (Query.writtenField f ++ cs) =
      t :: lexemesFrom (position + (Query.writtenField f).length) cs :=
  ⟨_, rfl, lexemesFrom_lexeme (.field cs (isWord_shortSpelling f) (ofSpelling?_shortSpelling f)) position⟩

/-- A sign that compares, in front of a text that does not lengthen it. -/
theorem lexemesFrom_writtenOperator {op : Comparison} (hop : op ≠ .equal) {cs : List Char}
    (hcs : cs.head? ≠ some '=') (position : Nat) :
    ∃ t, comparison? t.kind = some op ∧ lexemesFrom position (Query.writtenOperator op ++ cs) =
      t :: lexemesFrom (position + (Query.writtenOperator op).length) cs := by
  cases op with
  | equal => exact absurd rfl hop
  | less => exact ⟨_, rfl, lexemesFrom_lexeme (.shortComparison (.head _) hcs) position⟩
  | greater => exact ⟨_, rfl, lexemesFrom_lexeme (.shortComparison (.tail _ (.head _)) hcs) position⟩
  | atMost => exact ⟨_, rfl, lexemesFrom_lexeme (.longComparison cs (.head _)) position⟩
  | atLeast => exact ⟨_, rfl, lexemesFrom_lexeme (.longComparison cs (.tail _ (.head _))) position⟩

theorem head?_decimal (n : Nat) : (Text.decimal n).head? ≠ some '=' := by
  obtain ⟨d, ds, hcs, hd⟩ := Text.isNumber_cons (Text.isNumber_decimal n)
  rw [hcs]
  rintro ⟨⟩
  exact absurd hd (by decide)

/-! ## Tests -/

/-- The text of a value behind the field `f`. -/
def WritesValue (f : Field) (cs : List Char) (q : Query) : Prop :=
  ∀ position, FieldTest f (lexemesFrom position cs) q

theorem WritesValue.writes {f : Field} {cs : List Char} {q : Query} (h : WritesValue f cs q) :
    Writes .primary (Query.writtenField f ++ cs) q := by
  intro position
  obtain ⟨t, ht, htokens⟩ := lexemesFrom_writtenField f position cs
  rw [htokens]
  exact .field ht (h _)

/-- A searched text is one token. -/
theorem lexemesFrom_search {scope : Scope} {value : String} {exact : Bool}
    (h : (Query.search scope value exact).Canonical) (position : Nat) :
    ∃ t, lexemesFrom position (if exact then quoted value.toList else value.toList) = [t] ∧ value = t.value ∧
      t.kind = if exact then .quoted else .text := by
  cases exact with
  | true =>
    refine ⟨_, lexemesFrom_quoted h position, ?_, rfl⟩
    exact String.ofList_toList.symm
  | false =>
    obtain ⟨hword, hplain⟩ := h
    refine ⟨_, lexemesFrom_word hword (.text hplain) position, ?_, rfl⟩
    exact String.ofList_toList.symm

theorem writesValue_search {f : Field} {value : String} {exact : Bool}
    (h : (Query.search (.field f) value exact).Canonical) :
    WritesValue f (if exact then quoted value.toList else value.toList) (.search (.field f) value exact) := by
  intro position
  obtain ⟨t, htokens, rfl, hkind⟩ := lexemesFrom_search h position
  rw [htokens]
  cases exact with
  | true => exact .quoted hkind
  | false => exact .text hkind

theorem writes_usual {value : String} {exact : Bool} (h : (Query.search .usual value exact).Canonical) :
    Writes .primary (if exact then quoted value.toList else value.toList) (.search .usual value exact) := by
  intro position
  obtain ⟨t, htokens, rfl, hkind⟩ := lexemesFrom_search h position
  rw [htokens]
  cases exact with
  | true => exact .quoted hkind
  | false => exact .text hkind

theorem writesValue_frequency (op : Comparison) (n : UInt64) :
    WritesValue .frequency (Query.writtenOperator op ++ Text.decimal n.toNat) (.compare op .frequency n) := by
  intro position
  by_cases hop : op = .equal
  · subst hop
    simp only [Query.writtenOperator, List.nil_append, lexemesFrom_decimal]
    exact .number rfl rfl (by simpa using Text.denotes_decimal n)
  · obtain ⟨t, ht, htokens⟩ := lexemesFrom_writtenOperator hop (head?_decimal n.toNat) position
    rw [htokens, lexemesFrom_decimal]
    exact .comparison rfl ht rfl (by simpa using Text.denotes_decimal n)

theorem rank_cases {rank : UInt64} (hlow : 1 ≤ rank) (hhigh : rank ≤ 5) :
    rank = 1 ∨ rank = 2 ∨ rank = 3 ∨ rank = 4 ∨ rank = 5 := by
  rw [UInt64.le_iff_toNat_le] at hlow hhigh
  simp only [← UInt64.toNat_inj]
  simp only [UInt64.reduceToNat] at hlow hhigh ⊢
  omega

/-- A level is a text that has its rank. -/
theorem level_of_rank {rank : UInt64} (hlow : 1 ≤ rank) (hhigh : rank ≤ 5) :
    IsWord ('N' :: Text.decimal rank.toNat) ∧ Classified ('N' :: Text.decimal rank.toNat) .text ∧
      jlptRank? (String.ofList ('N' :: Text.decimal rank.toNat)) = some rank := by
  rw [classified_iff]
  rcases rank_cases hlow hhigh with rfl | rfl | rfl | rfl | rfl
  all_goals exact ⟨by decide, by decide, rfl⟩

theorem writesValue_level {op : Comparison} (hop : op ≠ .equal) {rank : UInt64} (hlow : 1 ≤ rank) (hhigh : rank ≤ 5) :
    WritesValue .jlptLevel (Query.writtenOperator op ++ 'N' :: Text.decimal rank.toNat)
      (.compare op .jlptLevel rank) := by
  intro position
  obtain ⟨hword, hkind, hrank⟩ := level_of_rank hlow hhigh
  have hhead : ('N' :: Text.decimal rank.toNat).head? ≠ some '=' := by simp
  obtain ⟨t, ht, htokens⟩ := lexemesFrom_writtenOperator hop hhead position
  rw [htokens, lexemesFrom_word hword hkind]
  exact .level rfl ht rfl hrank

theorem writesValue_range (min max : UInt64) :
    WritesValue .frequency (Text.decimal min.toNat ++ '-' :: Text.decimal max.toNat) (.range .frequency min max) := by
  intro position
  have hlow := Text.denotes_decimal min
  have hhigh := Text.denotes_decimal max
  have hspan : IsSpan (Text.decimal min.toNat ++ '-' :: Text.decimal max.toNat) :=
    ⟨_, _, rfl, hlow.isNumber, hhigh.isNumber⟩
  rw [lexemesFrom_word hspan.isWord (.range hspan)]
  exact .range rfl rfl String.toList_ofList hlow hhigh

/-! ## Queries -/

/-- **The text of a canonical query spells it.** -/
theorem Query.Canonical.writes {q : Query} (h : q.Canonical) : Writes q.layer q.written q := by
  induction q with
  | and left right ihl ihr =>
    obtain ⟨hleft, hright, hlayerLeft, hlayerRight⟩ := h
    simpa [written, layer] using ((ihl hleft).weaken hlayerLeft).and ((ihr hright).weaken hlayerRight)
  | or left right ihl ihr =>
    obtain ⟨hleft, hright, hlayer⟩ := h
    simpa [written, layer] using ((ihl hleft).weaken (Layer.le_disjunction _)).or ((ihr hright).weaken hlayer)
  | not inner ih =>
    obtain ⟨hinner, hlayer⟩ := h
    exact ((ih hinner).weaken hlayer).not
  | group inner ih => exact ((ih h).weaken (Layer.le_disjunction _)).group
  | compare op f value =>
    rcases h with rfl | ⟨rfl, hop, hlow, hhigh⟩
    · simpa [written, layer] using (writesValue_frequency op value).writes
    · simpa [written, layer] using (writesValue_level hop hlow hhigh).writes
  | range f min max =>
    obtain rfl : f = .frequency := h
    simpa [written, layer] using (writesValue_range min max).writes
  | search scope value exact =>
    cases scope with
    | usual => exact writes_usual h
    | field f => exact (writesValue_search h).writes

/-- **Writing and reading are inverse on the queries that are read**, which are the canonical ones within the limit on
nesting. -/
theorem written_tfae (q : Query) : List.TFAE
    [∃ text, (parseQuery text).query = some q,
      parseQuery (String.ofList q.written) = ⟨some q, []⟩,
      q.Canonical ∧ q.nesting ≤ maxNesting] := by
  tfae_have 1 → 3 := fun ⟨_, h⟩ => canonical_of_parseQuery h
  tfae_have 3 → 2 := by
    rintro ⟨hcanonical, hn⟩
    refine parseQuery_iff_writes.mpr ⟨?_, hn⟩
    rw [String.toList_ofList]
    exact hcanonical.writes.weaken (Layer.le_disjunction _)
  tfae_have 2 → 1 := fun h => ⟨_, by rw [h]⟩
  tfae_finish

end KanjiSearch
