import KanjiSearch.Proofs.Grammar.RoundTrip
import KanjiSearch.Proofs.Lexer.FieldNames
import Mathlib.Data.List.Induction
import Mathlib.Data.Nat.Digits.Defs

/-!
# Numbers in queries

A number behind a field counts with all of its digits or not at all. Its value is the positional one (`decimalValue`),
whatever zeros are in front, and a value that is no 64-bit number is the only fault of the query.

* `parseQuery_frequency`: a query that is a field of numbers and its value is what the rule for values makes of it.
* `fieldValue_number`, `fieldValue_range`: the rule for numbers and for ranges, with `withNumber_fits` and
  `withNumber_exceeds` for one number.
* `numbers_exact`: numbers, comparisons and ranges, also empty ones, behind a field of numbers, in any case of the
  letters of its spelling. Where a value is too great there is no query, and the error stands at its token.
-/

open KanjiSearch.Parser KanjiSearch.Lexer

namespace KanjiSearch

/-! ## Values -/

/-- The value of a text of digits: the last digit counts ones, the one before it tens, and so on. -/
def decimalValue (digits : String) : Nat :=
  Nat.ofDigits 10 (digits.toList.reverse.map fun c => c.toNat - '0'.toNat)

theorem digitsValue_concat (cs : List Char) (c : Char) :
    Text.digitsValue (cs ++ [c]) = 10 * Text.digitsValue cs + (c.toNat - '0'.toNat) := by
  rw [Text.digitsValue, List.foldl_append]
  rfl

theorem digitsValue_eq (digits : String) : Text.digitsValue digits.toList = decimalValue digits := by
  unfold decimalValue
  generalize digits.toList = cs
  induction cs using List.reverseRecOn with
  | nil => rfl
  | append_singleton cs c ih =>
    rw [digitsValue_concat, ih, List.reverse_concat, List.map_cons, Nat.ofDigits_cons, Nat.add_comm]

theorem exists_denotes_of_lt {digits : String} (h : Text.isNumber digits.toList = true)
    (hlt : decimalValue digits < 2 ^ 64) : ∃ n : UInt64, Text.Denotes digits.toList n :=
  Text.exists_denotes h (by rwa [digitsValue_eq])

/-- The only fault of a query is that the number `digits`, in the token `t`, is too great. -/
def Parse.Refuses (p : Parse) (digits : String) (t : Token) : Prop :=
  ∃ e, p = ⟨none, [e]⟩ ∧ e.message = "Invalid number: " ++ digits ∧ e.position = t.position ∧ e.token = some t

/-! ## The tokens of numbers -/

theorem lexemesFrom_gap_word {gap word : List Char} {kind : TokenKind} (hgap : ∀ c ∈ gap, Text.isBlank c = true)
    (hword : IsWord word) (hkind : Classified word kind) (position : Nat) :
    lexemesFrom position (gap ++ word) = [⟨kind, String.ofList word, position + gap.length⟩] := by
  rw [lexemesFrom_gap (fun c hc => .inl (hgap c hc)), lexemesFrom_word hword hkind]

/-- Neither a blank nor a digit lengthens a sign that compares. -/
theorem head?_gap_digits {gap digits : List Char} (hgap : ∀ c ∈ gap, Text.isBlank c = true)
    (h : Text.isNumber digits = true) : (gap ++ digits).head? ≠ some '=' := by
  cases gap with
  | nil =>
    obtain ⟨d, ds, rfl, hd⟩ := Text.isNumber_cons h
    rintro ⟨⟩
    exact absurd hd (by decide)
  | cons c gap =>
    have hc := hgap c List.mem_cons_self
    rintro ⟨⟩
    exact absurd hc (by decide)

/-! ## The rule for numbers -/

section Rules

variable {stop t : Token} {use : UInt64 → Reading}

theorem withNumber_fits {digits : List Char} {n : UInt64} (h : Text.Denotes digits n) (rest : List Token) :
    withNumber t digits rest use = use n := by
  rw [withNumber, h.count?]

theorem withNumber_exceeds {digits : List Char} (h : Text.isNumber digits = true)
    (hle : UInt64.size ≤ Text.digitsValue digits) (rest : List Token) :
    withNumber t digits rest use = ⟨none, rest, [.on (.invalidNumber (String.ofList digits)) t]⟩ := by
  rw [withNumber, Text.count?_eq_none h hle]

/-- A number behind a field of numbers, with or without a sign that compares. -/
theorem fieldValue_number {op : Comparison} {gap digits : List Char} (hgap : ∀ c ∈ gap, Text.isBlank c = true)
    (h : Text.isNumber digits = true) (spelling : String) (position : Nat) :
    fieldValue stop .frequency spelling (lexemesFrom position (Query.writtenOperator op ++ (gap ++ digits))) =
      withNumber ⟨.number, String.ofList digits, position + (Query.writtenOperator op).length + gap.length⟩ digits []
        fun n => ⟨some (.compare op .frequency n), [], []⟩ := by
  have hnumber := lexemesFrom_gap_word hgap (isWord_of_isNumber h) (.number h)
  by_cases hop : op = .equal
  · subst hop
    simp [Query.writtenOperator, hnumber, fieldValue, comparison?]
  · obtain ⟨o, ho, htokens⟩ := lexemesFrom_writtenOperator hop (head?_gap_digits hgap h) position
    rw [htokens, hnumber]
    simp [fieldValue, ho, comparedFrequency]

/-- A range behind a field of numbers. -/
theorem fieldValue_range {gap low high : List Char} (hgap : ∀ c ∈ gap, Text.isBlank c = true)
    (hlow : Text.isNumber low = true) (hhigh : Text.isNumber high = true) (spelling : String) (position : Nat) :
    let t := ⟨.range, String.ofList (low ++ '-' :: high), position + gap.length⟩
    fieldValue stop .frequency spelling (lexemesFrom position (gap ++ (low ++ '-' :: high))) =
      withNumber t low [] fun min => withNumber t high [] fun max => ⟨some (.range .frequency min max), [], []⟩ := by
  have hspan : IsSpan (low ++ '-' :: high) := ⟨low, high, rfl, hlow, hhigh⟩
  have hdash : Text.splitOnce '-' (low ++ '-' :: high) = some (low, high) :=
    Text.splitOnce_append (Text.not_mem_of_isNumber hlow (by decide)) high
  rw [lexemesFrom_gap_word hgap hspan.isWord (.range hspan)]
  simp [fieldValue, comparison?, rangeValue, hdash]

end Rules

/-! ## Queries of one field -/

/-- A field and its value, read to their end, are all of a query. -/
theorem parseUpTo_field {stop t : Token} {f : Field} (ht : t.kind = .field f) {ts : List Token} {q : Option Query}
    {es : List SyntaxError} (hvalue : fieldValue stop f t.value ts = ⟨q, [], es⟩) :
    parseUpTo stop (t :: ts) = ⟨q, es⟩ := by
  have hnot : ∀ u, (t :: ts).head? = some u → u.kind ≠ .not := fun u hu => by cases hu; simp [ht]
  have hoperand : operand stop (groupReader stop maxNesting) (t :: ts) = ⟨q, [], es⟩ := by
    rw [operand_of_ne_not _ hnot]
    simp only [primary, ht, hvalue]
  rw [parseUpTo, expression_read]
  cases q <;> cases es <;> simp [disjunction, conjunction, hoperand, Reading.after]

section Frequency

variable {name : String} (hname : Text.lowerString name = "freq" ∨ Text.lowerString name = "frequency")
include hname

theorem ofSpelling?_frequency : Field.ofSpelling? name = some .frequency := by
  rcases hname with h | h
  · rw [Field.ofSpelling?, h]
    rfl
  · rw [Field.ofSpelling?, h]
    rfl

/-- A query of a field of numbers is what the rule for its value makes of the rest. -/
theorem parseQuery_frequency {value : String} {q : Option Query} {es : List SyntaxError}
    (hvalue : ∀ stop spelling, fieldValue stop .frequency spelling (lexemesFrom (name.length + 1) value.toList) =
      ⟨q, [], es⟩) : parseQuery (name ++ ":" ++ value) = ⟨q, es⟩ := by
  obtain ⟨spelling, hlower, hword, hf⟩ := exists_spelling (ofSpelling?_frequency hname)
  have htext : (name ++ ":" ++ value).toList = name.toList ++ ':' :: value.toList := by simp
  rw [parseQuery, parseTokens_eq, tokensBeforeEnd_tokenize, htext, lexemesFrom_fieldName hlower hword hf, Nat.zero_add,
    String.length_toList]
  exact parseUpTo_field rfl (hvalue _ _)

/-- A query of one number is what the rule for numbers makes of it. -/
theorem parseQuery_number {gap digits : String} (hgap : ∀ c ∈ gap.toList, Text.isBlank c = true)
    (h : Text.isNumber digits.toList = true) (op : Comparison) {q : Option Query} {es : List SyntaxError} :
    let front := name ++ ":" ++ String.ofList (Query.writtenOperator op) ++ gap
    withNumber ⟨.number, digits, front.length⟩ digits.toList []
      (fun n => ⟨some (.compare op .frequency n), [], []⟩) = ⟨q, [], es⟩ →
    parseQuery (front ++ digits) = ⟨q, es⟩ := by
  intro front hread
  have hplace : front.length = name.length + 1 + (Query.writtenOperator op).length + gap.toList.length := by
    simp only [front, String.length_append, String.length_ofList, String.length_toList]
    rfl
  have hfront : front ++ digits = name ++ ":" ++ (String.ofList (Query.writtenOperator op) ++ gap ++ digits) := by
    simp only [front, String.append_assoc]
  rw [hfront]
  refine parseQuery_frequency hname fun stop spelling => ?_
  have htext : (String.ofList (Query.writtenOperator op) ++ gap ++ digits).toList =
      Query.writtenOperator op ++ (gap.toList ++ digits.toList) := by simp
  rw [htext, fieldValue_number hgap h, ← hplace, String.ofList_toList]
  exact hread

/-- A query of one range is what the rule for numbers makes of its two numbers. -/
theorem parseQuery_range {gap low high : String} (hgap : ∀ c ∈ gap.toList, Text.isBlank c = true)
    (hlow : Text.isNumber low.toList = true) (hhigh : Text.isNumber high.toList = true) {q : Option Query}
    {es : List SyntaxError} :
    let front := name ++ ":" ++ gap
    let digits := low ++ "-" ++ high
    let t : Token := ⟨.range, digits, front.length⟩
    (withNumber t low.toList [] fun min => withNumber t high.toList [] fun max =>
      ⟨some (.range .frequency min max), [], []⟩) = ⟨q, [], es⟩ →
    parseQuery (front ++ digits) = ⟨q, es⟩ := by
  intro front digits t hread
  have hplace : front.length = name.length + 1 + gap.toList.length := by
    simp only [front, String.length_append, String.length_toList]
    rfl
  have hfront : front ++ digits = name ++ ":" ++ (gap ++ digits) := by simp only [front, String.append_assoc]
  have hdigits : String.ofList (low.toList ++ '-' :: high.toList) = digits :=
    String.toList_inj.mp (by simp [digits])
  rw [hfront]
  refine parseQuery_frequency hname fun stop spelling => ?_
  have htext : (gap ++ digits).toList = gap.toList ++ (low.toList ++ '-' :: high.toList) := by simp [digits]
  rw [htext, fieldValue_range hgap hlow hhigh, ← hplace, hdigits]
  exact hread

/-- **Numbers are exact, or refused**: all digits count below `2 ^ 64`, and else the first number that is too great is
the only error. -/
theorem numbers_exact :
    (∀ (op : Comparison) (gap digits : String), (∀ c ∈ gap.toList, Text.isBlank c = true) →
      Text.isNumber digits.toList = true →
      let front := name ++ ":" ++ String.ofList (Query.writtenOperator op) ++ gap
      (decimalValue digits < 2 ^ 64 → ∃ n : UInt64, n.toNat = decimalValue digits ∧
        parseQuery (front ++ digits) = ⟨some (.compare op .frequency n), []⟩) ∧
      (2 ^ 64 ≤ decimalValue digits →
        (parseQuery (front ++ digits)).Refuses digits ⟨.number, digits, front.length⟩)) ∧
    (∀ gap low high : String, (∀ c ∈ gap.toList, Text.isBlank c = true) →
      Text.isNumber low.toList = true → Text.isNumber high.toList = true →
      let front := name ++ ":" ++ gap
      let digits := low ++ "-" ++ high
      (decimalValue low < 2 ^ 64 → decimalValue high < 2 ^ 64 → ∃ min max : UInt64,
        min.toNat = decimalValue low ∧ max.toNat = decimalValue high ∧
        parseQuery (front ++ digits) = ⟨some (.range .frequency min max), []⟩) ∧
      (2 ^ 64 ≤ decimalValue low → (parseQuery (front ++ digits)).Refuses low ⟨.range, digits, front.length⟩) ∧
      (decimalValue low < 2 ^ 64 → 2 ^ 64 ≤ decimalValue high →
        (parseQuery (front ++ digits)).Refuses high ⟨.range, digits, front.length⟩)) := by
  refine ⟨fun op gap digits hgap h => ⟨fun hlt => ?_, fun hle => ?_⟩,
    fun gap low high hgap hlow hhigh => ⟨fun hltLow hltHigh => ?_, fun hle => ?_, fun hlt hle => ?_⟩⟩
  · obtain ⟨n, hn⟩ := exists_denotes_of_lt h hlt
    exact ⟨n, (digitsValue_eq digits ▸ hn.value).symm, parseQuery_number hname hgap h op (withNumber_fits hn [])⟩
  · rw [← digitsValue_eq] at hle
    have hread := parseQuery_number hname hgap h op (withNumber_exceeds h hle [])
    rw [String.ofList_toList] at hread
    exact ⟨_, hread, rfl, rfl, rfl⟩
  · obtain ⟨min, hmin⟩ := exists_denotes_of_lt hlow hltLow
    obtain ⟨max, hmax⟩ := exists_denotes_of_lt hhigh hltHigh
    refine ⟨min, max, (digitsValue_eq low ▸ hmin.value).symm, (digitsValue_eq high ▸ hmax.value).symm, ?_⟩
    exact parseQuery_range hname hgap hlow hhigh ((withNumber_fits hmin []).trans (withNumber_fits hmax []))
  · rw [← digitsValue_eq] at hle
    have hread := parseQuery_range hname hgap hlow hhigh (withNumber_exceeds hlow hle [])
    rw [String.ofList_toList] at hread
    exact ⟨_, hread, rfl, rfl, rfl⟩
  · obtain ⟨min, hmin⟩ := exists_denotes_of_lt hlow hlt
    rw [← digitsValue_eq] at hle
    have hread := parseQuery_range hname hgap hlow hhigh
      ((withNumber_fits hmin []).trans (withNumber_exceeds hhigh hle []))
    rw [String.ofList_toList] at hread
    exact ⟨_, hread, rfl, rfl, rfl⟩

end Frequency

/-- The greatest number behind zeros and a tab, the one above it, and this one as the end of a range. -/
theorem numbers_exact_bounds :
    (∃ n : UInt64, n.toNat = 18446744073709551615 ∧
      parseQuery "FrEq:<=\t018446744073709551615" = ⟨some (.compare .atMost .frequency n), []⟩) ∧
    (parseQuery "FrEq:18446744073709551616").Refuses "18446744073709551616" ⟨.number, "18446744073709551616", 5⟩ ∧
    (parseQuery "FrEq:7-18446744073709551616").Refuses "18446744073709551616"
      ⟨.range, "7-18446744073709551616", 5⟩ := by
  have hname : Text.lowerString "FrEq" = "freq" ∨ Text.lowerString "FrEq" = "frequency" := .inl (by decide +kernel)
  have htab : ∀ c ∈ "\t".toList, Text.isBlank c = true := List.all_eq_true.mp (by decide +kernel)
  have hnone : ∀ c ∈ "".toList, Text.isBlank c = true := List.all_eq_true.mp (by decide +kernel)
  have hgreatest := ((numbers_exact hname).1 .atMost "\t" "018446744073709551615" htab (by decide +kernel)).1
    (by decide +kernel)
  have habove := ((numbers_exact hname).1 .equal "" "18446744073709551616" hnone (by decide +kernel)).2
    (by decide +kernel)
  have hrange := ((numbers_exact hname).2 "" "7" "18446744073709551616" hnone (by decide +kernel)
    (by decide +kernel)).2.2 (by decide +kernel) (by decide +kernel)
  exact ⟨hgreatest, habove, hrange⟩

end KanjiSearch
