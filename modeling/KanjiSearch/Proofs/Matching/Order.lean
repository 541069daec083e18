import KanjiSearch.Proofs.Grammar.RoundTrip

/-!
# The order of numbers in queries

A comparison asks for a number in the order of the numbers, and for a JLPT level in the order of levels, which runs
against that of their ranks (`Comparison.Asks`). Comparisons and ranges are tests of one number, the one of the field
(`holds_compare_iff`, `holds_range_iff`), so the laws of order carry over to the records that match.

* `holds_range`: a range asks for what two comparisons ask for.
* `parts_less`, `parts_greater`: a comparison and its opposite part the records that have a number.
* `numbers_in_order`: these laws, and what follows for the texts of queries: a range of frequencies may be written as
  two comparisons, an exact number is a range of one number, and a level asks with `<` for the greater ranks.
-/

open KanjiSearch.Parser KanjiSearch.Lexer

namespace KanjiSearch

/-! ## Tests of one number -/

/-- What a comparison asks of two numbers, in this order. -/
def Comparison.Asks : Comparison → Nat → Nat → Prop
  | less, a, b => a < b
  | greater, a, b => b < a
  | atMost, a, b => a ≤ b
  | atLeast, a, b => b ≤ a
  | equal, a, b => a = b

theorem Comparison.holds_iff (op : Comparison) (a b : UInt64) : op.holds a b = true ↔ op.Asks a.toNat b.toNat := by
  cases op <;> simp [holds, Asks, UInt64.lt_iff_toNat_lt, UInt64.le_iff_toNat_le, ← UInt64.toNat_inj]

theorem Comparison.reversed_asks (op : Comparison) (a b : Nat) : op.reversed.Asks a b ↔ op.Asks b a := by
  cases op with
  | equal => exact eq_comm
  | less | greater | atMost | atLeast => exact Iff.rfl

section Tests

variable (r : Fields) (f : Field) (a b : UInt64)

/-- A comparison asks for a number of the field, on its left, or for a JLPT level on its right. -/
theorem holds_compare_iff (op : Comparison) : (Query.compare op f a).holds r = true ↔
    ∃ n, numericValue r f = some n ∧ if f = .jlptLevel then op.Asks a.toNat n.toNat else op.Asks n.toNat a.toNat := by
  simp only [Query.holds, Option.any_eq_true, compareIn]
  refine exists_congr fun n => and_congr_right fun _ => ?_
  split
  · rw [Comparison.holds_iff, Comparison.reversed_asks]
  · rw [Comparison.holds_iff]

theorem holds_range_iff : (Query.range f a b).holds r = true ↔
    ∃ n, numericValue r f = some n ∧ a.toNat ≤ n.toNat ∧ n.toNat ≤ b.toNat := by
  simp only [Query.holds, Option.any_eq_true, Bool.and_eq_true, decide_eq_true_eq, UInt64.le_iff_toNat_le]

theorem holds_and_iff (left right : Query) :
    (Query.and left right).holds r = true ↔ left.holds r = true ∧ right.holds r = true :=
  Bool.and_eq_true_iff

/-- A range of numbers or of ranks holds where the two comparisons with its ends hold. -/
theorem holds_range : (Query.range f a b).holds r =
    (if f = .jlptLevel then Query.and (.compare .atMost f a) (.compare .atLeast f b)
      else Query.and (.compare .atLeast f a) (.compare .atMost f b)).holds r := by
  rw [Bool.eq_iff_iff, holds_range_iff]
  split
  · next hf =>
    simp only [holds_and_iff, holds_compare_iff, if_pos hf, Comparison.Asks]
    cases numericValue r f <;> simp
  · next hf =>
    simp only [holds_and_iff, holds_compare_iff, if_neg hf, Comparison.Asks]
    cases numericValue r f <;> simp

/-- An exact number is a range of one number. -/
theorem holds_equal : (Query.compare .equal f a).holds r = (Query.range f a a).holds r := by
  rw [Bool.eq_iff_iff, holds_range_iff, holds_compare_iff]
  refine exists_congr fun n => and_congr_right fun _ => ?_
  simp only [Comparison.Asks]
  split <;> omega

/-- No record matches both queries, and one of them is matched exactly where the field has a number. -/
def Parts (q q' : Query) : Prop :=
  (q.holds r && q'.holds r) = false ∧ (q.holds r || q'.holds r) = (numericValue r f).isSome

theorem parts_of_asks {op op' : Comparison} (hnot : ∀ a b, op'.Asks a b ↔ ¬ op.Asks a b) :
    Parts r f (.compare op f a) (.compare op' f a) := by
  have hfirst := holds_compare_iff r f a op
  have hsecond := holds_compare_iff r f a op'
  unfold Parts
  cases hn : numericValue r f with
  | none =>
    simp only [hn, reduceCtorEq, false_and, exists_false, iff_false, Bool.not_eq_true] at hfirst hsecond
    rw [hfirst, hsecond]
    exact ⟨rfl, rfl⟩
  | some n =>
    have hopposite : (Query.compare op' f a).holds r = !(Query.compare op f a).holds r := by
      rw [Bool.eq_iff_iff, Bool.not_eq_true', ← Bool.not_eq_true, hfirst, hsecond, hn]
      simp only [Option.some.injEq, exists_eq_left']
      split <;> exact hnot _ _
    rw [hopposite]
    cases (Query.compare op f a).holds r <;> exact ⟨rfl, rfl⟩

theorem parts_less : Parts r f (.compare .less f a) (.compare .atLeast f a) :=
  parts_of_asks r f a fun _ _ => Nat.not_lt.symm

theorem parts_greater : Parts r f (.compare .greater f a) (.compare .atMost f a) :=
  parts_of_asks r f a fun _ _ => Nat.not_lt.symm

end Tests

/-! ## Texts -/

/-- A text without groups reads as what it spells, at any layer. -/
theorem parseQuery_of_writes {layer : Layer} {cs : List Char} {q : Query} (h : Writes layer cs q)
    (hn : q.nesting = 0) {text : String} (htext : text.toList = cs) : parseQuery text = ⟨some q, []⟩ := by
  subst htext
  exact parseQuery_iff_writes.mpr ⟨h.weaken (Layer.le_disjunction layer), hn ▸ Nat.zero_le _⟩

theorem writtenField_frequency : Query.writtenField .frequency = "freq:".toList :=
  rfl

theorem writtenField_jlptLevel : Query.writtenField .jlptLevel = "jlpt:".toList :=
  rfl

theorem parseQuery_rangeOf (a b : UInt64) :
    parseQuery ("freq:" ++ Text.decimalString a.toNat ++ "-" ++ Text.decimalString b.toNat) =
      ⟨some (.range .frequency a b), []⟩ :=
  parseQuery_of_writes (writesValue_range a b).writes rfl (by simp [writtenField_frequency, Text.decimalString])

theorem parseQuery_boundsOf (a b : UInt64) :
    parseQuery ("freq:>=" ++ Text.decimalString a.toNat ++ " & freq:<=" ++ Text.decimalString b.toNat) =
      ⟨some (.and (.compare .atLeast .frequency a) (.compare .atMost .frequency b)), []⟩ := by
  have hlow := (writesValue_frequency .atLeast a).writes.weaken (show Layer.primary ≤ .conjunction by decide)
  have hhigh := (writesValue_frequency .atMost b).writes.weaken (show Layer.primary ≤ .operand by decide)
  refine parseQuery_of_writes (hlow.and hhigh) rfl ?_
  simp [writtenField_frequency, Query.writtenOperator, Comparison.symbol, Text.decimalString]

theorem parseQuery_easierThan {v : UInt64} (hlow : 1 ≤ v) (hhigh : v ≤ 5) :
    parseQuery ("jlpt:<N" ++ Text.decimalString v.toNat) = ⟨some (.compare .less .jlptLevel v), []⟩ := by
  have hless : Comparison.less ≠ .equal := by decide
  refine parseQuery_of_writes (writesValue_level hless hlow hhigh).writes rfl ?_
  simp [writtenField_jlptLevel, Query.writtenOperator, Comparison.symbol, Text.decimalString]

/-- **Numeric tests keep the laws of order**: ranges are two comparisons, and opposite comparisons part the records with
a number. -/
theorem numbers_in_order :
    (∀ (r : Fields) (f : Field) (a b : UInt64),
      (Query.range f a b).holds r =
        (if f = .jlptLevel then Query.and (.compare .atMost f a) (.compare .atLeast f b)
          else Query.and (.compare .atLeast f a) (.compare .atMost f b)).holds r ∧
      Parts r f (.compare .less f a) (.compare .atLeast f a) ∧
      Parts r f (.compare .greater f a) (.compare .atMost f a) ∧
      (Query.compare .equal f a).holds r = (Query.range f a a).holds r) ∧
    (∀ a b : UInt64, ∃ q q',
      parseQuery ("freq:" ++ Text.decimalString a.toNat ++ "-" ++ Text.decimalString b.toNat) = ⟨some q, []⟩ ∧
      parseQuery ("freq:>=" ++ Text.decimalString a.toNat ++ " & freq:<=" ++ Text.decimalString b.toNat) =
        ⟨some q', []⟩ ∧
      ∀ r, q.holds r = q'.holds r) ∧
    (∀ v : UInt64, 1 ≤ v → v ≤ 5 → ∃ q,
      parseQuery ("jlpt:<N" ++ Text.decimalString v.toNat) = ⟨some q, []⟩ ∧
      (∀ r : Fields, q.holds r = true ↔ ∃ k, numericValue r .jlptLevel = some k ∧ v < k) ∧
      (∀ r : Record, q.holds r.fields = true ↔ ∃ k, jlptRank? r.jlptLevel = some k ∧ v < k)) := by
  refine ⟨fun r f a b => ⟨holds_range r f a b, parts_less r f a, parts_greater r f a, holds_equal r f a⟩,
    fun a b => ⟨_, _, parseQuery_rangeOf a b, parseQuery_boundsOf a b, fun r => holds_range r .frequency a b⟩,
    fun v hlow hhigh => ?_⟩
  have hholds : ∀ r : Fields, (Query.compare .less .jlptLevel v).holds r = true ↔
      ∃ k, numericValue r .jlptLevel = some k ∧ v < k := fun r => by
    rw [holds_compare_iff]
    simp only [if_true, Comparison.Asks, UInt64.lt_iff_toNat_lt]
  exact ⟨_, parseQuery_easierThan hlow hhigh, hholds, fun r => hholds r.fields⟩

/-- The levels below N3, of which N4 is one. -/
theorem numbers_in_order_n3 : ∃ q, parseQuery "jlpt:<N3" = ⟨some q, []⟩ ∧
    q.holds (Record.fields { kanji := "火", jlptLevel := "n4" }) = true := by
  obtain ⟨q, hq, -, hholds⟩ := numbers_in_order.2.2 3 (by decide) (by decide)
  exact ⟨q, hq, (hholds _).mpr ⟨4, by decide +kernel, by decide⟩⟩

end KanjiSearch
