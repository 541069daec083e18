import KanjiSearch.Proofs.Grammar.Numbers
import KanjiSearch.Proofs.Lexer.Gaps
import KanjiSearch.Proofs.Matching.Order

/-!
# Levels by their first digit

The rank of a JLPT level is the digit of the first `N`, in upper case, that a digit follows directly (`IsFirstDigit`).
An `N` without a digit is passed over, and nothing behind the first pair counts. Queries and records have their ranks
read in this one way.

* `levelDigit?_eq_some_iff`: the digit that is found. One step of the search either stands at the first pair
  (`isFirstDigit_of_pair`) or passes one character over (`isFirstDigit_cons`).
* `jlptRank?_eq_some_iff`, `jlptRank?_of_gaps`: the rank that it is, also with blanks and colons around the level.
* `parseQuery_easierThanWord`, `holds_easier_iff`: what a query for easier levels comes to, and what it matches.
* `levels_by_first_digit`: ranks, and what follows for the texts of queries. A query for easier levels than a text of
  one word has no errors exactly if this text has a rank. The word may have gaps around it, but no equals sign in front
  that would lengthen the comparison.
-/

open KanjiSearch.Parser KanjiSearch.Lexer

namespace KanjiSearch

/-! ## The first digit behind an `N` -/

/-- Behind `i` characters of `cs` stands an `N`, and directly behind it the digit `d`. -/
def HasPairAt (cs : List Char) (i : Nat) (d : Char) : Prop :=
  cs[i]? = some 'N' ∧ cs[i + 1]? = some d ∧ d.isDigit = true

/-- `d` is the digit of the first `N` of `cs` that a digit follows directly. -/
def IsFirstDigit (cs : List Char) (d : Char) : Prop :=
  ∃ i, HasPairAt cs i d ∧ ∀ j < i, ∀ e, ¬ HasPairAt cs j e

section Scan

variable {c d e : Char} {cs : List Char}

theorem not_isFirstDigit_nil : ¬ IsFirstDigit [] d := by
  rintro ⟨i, ⟨hletter, -⟩, -⟩
  simp at hletter

/-- A pair at the start is the first one. -/
theorem isFirstDigit_of_pair (h : HasPairAt cs 0 d) : IsFirstDigit cs e ↔ d = e := by
  constructor
  · rintro ⟨i, ⟨-, hdigit, -⟩, hfirst⟩
    obtain rfl : i = 0 := by
      by_contra hi
      exact hfirst 0 (Nat.pos_of_ne_zero hi) d h
    exact Option.some.inj (h.2.1.symm.trans hdigit)
  · rintro rfl
    exact ⟨0, h, fun j hj => absurd hj (Nat.not_lt_zero j)⟩

/-- A character that starts no pair is passed over. -/
theorem isFirstDigit_cons (h : ∀ e, ¬ HasPairAt (c :: cs) 0 e) : IsFirstDigit (c :: cs) d ↔ IsFirstDigit cs d := by
  constructor
  · rintro ⟨i, hpair, hfirst⟩
    cases i with
    | zero => exact absurd hpair (h d)
    | succ i => exact ⟨i, hpair, fun j hj => hfirst (j + 1) (Nat.succ_lt_succ hj)⟩
  · rintro ⟨i, hpair, hfirst⟩
    refine ⟨i + 1, hpair, fun j hj => ?_⟩
    cases j with
    | zero => exact h
    | succ j => exact hfirst j (Nat.lt_of_succ_lt_succ hj)

/-- **The digit that is found is the one of the first pair.** -/
theorem levelDigit?_eq_some_iff : levelDigit? cs = some d ↔ IsFirstDigit cs d := by
  fun_induction levelDigit? cs with
  | case1 => exact iff_of_false (by simp) not_isFirstDigit_nil
  | case2 e rest he =>
    rw [Option.some.injEq]
    exact (isFirstDigit_of_pair ⟨rfl, rfl, he⟩).symm
  | case3 e rest he ih =>
    rw [ih]
    refine (isFirstDigit_cons ?_).symm
    rintro e' ⟨-, hdigit, he'⟩
    exact he (Option.some.inj hdigit ▸ he')
  | case4 =>
    refine iff_of_false (by simp) (mt (isFirstDigit_cons ?_).mp not_isFirstDigit_nil)
    rintro e' ⟨-, hdigit, -⟩
    cases hdigit
  | case5 c rest hc ih =>
    rw [ih]
    refine (isFirstDigit_cons ?_).symm
    rintro e' ⟨hletter, -⟩
    exact hc (Option.some.inj hletter)

end Scan

/-! ## Ranks -/

/-- **A level has a rank if the digit of its first pair is one.** -/
theorem jlptRank?_eq_some_iff {level : String} {rank : UInt64} : jlptRank? level = some rank ↔
    IsFirstDigit (Text.upper level.toList) (Nat.digitChar rank.toNat) ∧ 1 ≤ rank ∧ rank ≤ 5 := by
  rw [← levelDigit?_eq_some_iff]
  constructor
  · intro h
    refine ⟨?_, jlptRank?_bounds h⟩
    unfold jlptRank? at h
    split at h
    case h_6 => cases h
    all_goals
      next hdigit =>
        cases h
        exact hdigit
  · rintro ⟨hdigit, hlow, hhigh⟩
    rcases rank_cases hlow hhigh with rfl | rfl | rfl | rfl | rfl
    all_goals
      rw [jlptRank?, hdigit]
      rfl

/-- Behind a first pair with another digit nothing is looked for. -/
theorem jlptRank?_of_digit {level : String} {d : Char} (h : IsFirstDigit (Text.upper level.toList) d)
    (hd : d ∉ ['1', '2', '3', '4', '5']) : jlptRank? level = none := by
  rw [Option.eq_none_iff_forall_ne_some]
  intro rank hrank
  obtain ⟨hdigit, hlow, hhigh⟩ := jlptRank?_eq_some_iff.mp hrank
  obtain rfl : d = Nat.digitChar rank.toNat :=
    Option.some.inj ((levelDigit?_eq_some_iff.mpr h).symm.trans (levelDigit?_eq_some_iff.mpr hdigit))
  rcases rank_cases hlow hhigh with rfl | rfl | rfl | rfl | rfl
  all_goals exact hd (by decide)

/-! ## Gaps around a level -/

theorem levelDigit?_cons_of_ne {c : Char} (hc : c ≠ 'N') (cs : List Char) : levelDigit? (c :: cs) = levelDigit? cs := by
  rw [levelDigit?]
  exact hc

section Gaps

variable {gap : List Char} (hgap : ∀ c ∈ gap, IsGap c)
include hgap

/-- A gap in front of a text holds no pair. -/
theorem levelDigit?_gap_append (cs : List Char) : levelDigit? (gap ++ cs) = levelDigit? cs := by
  induction gap with
  | nil => rfl
  | cons c gap ih =>
    obtain ⟨hc, hrest⟩ := List.forall_mem_cons.mp hgap
    have hletter : c ≠ 'N' := by
      rintro rfl
      exact absurd hc.isBoundary (by decide)
    rw [List.cons_append, levelDigit?_cons_of_ne hletter, ih hrest]

/-- A gap behind a text neither holds a pair nor completes one. -/
theorem levelDigit?_append_gap (cs : List Char) : levelDigit? (cs ++ gap) = levelDigit? cs := by
  have hnone : levelDigit? gap = none := by
    have h := levelDigit?_gap_append hgap []
    rwa [List.append_nil] at h
  fun_induction levelDigit? cs with
  | case1 => exact hnone
  | case2 d rest hd => simp [levelDigit?, hd]
  | case3 d rest hd ih => simpa [levelDigit?, hd] using ih
  | case4 =>
    cases gap with
    | nil => rfl
    | cons c gap =>
      have hc : c.isDigit = false := by
        by_contra hdigit
        have hword := isBoundary_of_isDigit (eq_true_of_ne_false hdigit)
        exact absurd (hgap c List.mem_cons_self).isBoundary (Bool.eq_false_iff.mp hword)
      simpa [levelDigit?, hc] using hnone
  | case5 c rest hc ih => rw [List.cons_append, levelDigit?_cons_of_ne hc, ih]

end Gaps

/-- **Blanks and colons around a level do not change its rank.** -/
theorem jlptRank?_of_gaps {text level : String} {before after : List Char}
    (htext : text.toList = before ++ (level.toList ++ after)) (hbefore : ∀ c ∈ before, IsGap c)
    (hafter : ∀ c ∈ after, IsGap c) : jlptRank? text = jlptRank? level := by
  have hupper : Text.upper text.toList = before ++ (Text.upper level.toList ++ after) := by
    rw [htext, Text.upper, List.flatMap_append, List.flatMap_append]
    exact congrArg₂ _ (upper_gap hbefore) (congrArg _ (upper_gap hafter))
  rw [jlptRank?, hupper, levelDigit?_gap_append hbefore, levelDigit?_append_gap hafter, jlptRank?]

/-! ## Queries of levels -/

/-- What the rule for values makes of a sign that compares and a text of one word. -/
theorem fieldValue_level {stop t e : Token} {op : Comparison} (hop : op ≠ .equal) {word : String}
    (htokens : tokenize word = [t, e]) (ht : t.kind = .text) (hword : word.toList.head? ≠ some '=')
    (spelling : String) (position : Nat) :
    fieldValue stop .jlptLevel spelling (lexemesFrom position (Query.writtenOperator op ++ word.toList)) =
      match jlptRank? word with
      | some rank => ⟨some (.compare op .jlptLevel rank), [], []⟩
      | none => ⟨none, [], [.on (.invalidLevel t.value) (moved (position + (Query.writtenOperator op).length) t)]⟩ := by
  obtain ⟨before, after, htext, hbefore, hafter⟩ := exists_gaps_of_tokenize htokens ht
  obtain ⟨o, ho, hoperator⟩ := lexemesFrom_writtenOperator hop hword position
  have hlexemes : lexemesFrom 0 word.toList = [t] := by
    rw [lexemesFrom, ← tokenize, htokens]
    rfl
  rw [hoperator, lexemesFrom_zero_map, hlexemes, jlptRank?_of_gaps htext hbefore hafter]
  cases hrank : jlptRank? t.value with
  | some rank => simp [fieldValue, ho, comparedLevel, ht, hrank]
  | none => simp [fieldValue, ho, comparedLevel, ht, hrank]

/-- A query for the levels easier than a word is read if the word has a rank; otherwise the word is its only fault. -/
theorem parseQuery_easierThanWord {t e : Token} {word : String} (htokens : tokenize word = [t, e])
    (ht : t.kind = .text) (hword : word.toList.head? ≠ some '=') : parseQuery ("jlpt:<" ++ word) =
      match jlptRank? word with
      | some rank => ⟨some (.compare .less .jlptLevel rank), []⟩
      | none => ⟨none, [.on (.invalidLevel t.value) (moved 6 t)]⟩ := by
  have htext : ("jlpt:<" ++ word).toList =
      Query.writtenField .jlptLevel ++ (Query.writtenOperator .less ++ word.toList) := by
    rw [String.toList_append]
    rfl
  obtain ⟨f, hf, hfield⟩ := lexemesFrom_writtenField .jlptLevel 0 (Query.writtenOperator .less ++ word.toList)
  have hless : Comparison.less ≠ .equal := by decide
  rw [parseQuery, parseTokens_eq, tokensBeforeEnd_tokenize, htext, hfield]
  cases hrank : jlptRank? word with
  | some rank =>
    refine parseUpTo_field hf ?_
    rw [fieldValue_level hless htokens ht hword, hrank]
  | none =>
    refine parseUpTo_field hf ?_
    rw [fieldValue_level hless htokens ht hword, hrank]
    rfl

/-- What a record matches when levels easier than a rank are asked for. -/
theorem holds_easier_iff {r : Fields} {level : String} (hlevel : r .jlptLevel = .text level) (rank : UInt64) :
    (Query.compare .less .jlptLevel rank).holds r = true ↔ ∃ k, jlptRank? level = some k ∧ rank < k := by
  have hnumber : numericValue r .jlptLevel = jlptRank? level := by
    simp only [numericValue, hlevel]
  rw [holds_compare_iff, hnumber]
  simp only [if_true, Comparison.Asks, UInt64.lt_iff_toNat_lt]

/-- **Ranks are read from the first `N` that a digit follows directly, in queries as in records.** -/
theorem levels_by_first_digit :
    (∀ (level : String) (rank : UInt64), jlptRank? level = some rank ↔
      IsFirstDigit (Text.upper level.toList) (Nat.digitChar rank.toNat) ∧ 1 ≤ rank ∧ rank ≤ 5) ∧
    (∀ (level : String) (d : Char), IsFirstDigit (Text.upper level.toList) d → d ∉ ['1', '2', '3', '4', '5'] →
      jlptRank? level = none) ∧
    (∀ word : String, (tokenize word).map (·.kind) = [.text, .eof] → word.toList.head? ≠ some '=' →
      ((parseQuery ("jlpt:<" ++ word)).errors = [] ↔ ∃ rank, jlptRank? word = some rank) ∧
      ∀ rank, jlptRank? word = some rank → ∃ q, parseQuery ("jlpt:<" ++ word) = ⟨some q, []⟩ ∧
        (∀ (r : Fields) (level : String), r .jlptLevel = .text level →
          (q.holds r = true ↔ ∃ k, jlptRank? level = some k ∧ rank < k)) ∧
        (∀ r : Record, q.holds r.fields = true ↔ ∃ k, jlptRank? r.jlptLevel = some k ∧ rank < k)) := by
  refine ⟨fun _ _ => jlptRank?_eq_some_iff, fun _ _ => jlptRank?_of_digit, fun word hkinds hword => ?_⟩
  obtain ⟨t, ts, htokens, ht, hend⟩ := List.map_eq_cons_iff.mp hkinds
  obtain ⟨e, rfl, -⟩ := List.map_eq_singleton_iff.mp hend
  have hparse := parseQuery_easierThanWord htokens ht hword
  cases hrank : jlptRank? word with
  | none =>
    rw [hrank] at hparse
    rw [hparse]
    simp
  | some rank =>
    rw [hrank] at hparse
    refine ⟨iff_of_true (by rw [hparse]) ⟨rank, rfl⟩, ?_⟩
    rintro _ ⟨⟩
    exact ⟨_, hparse, fun r level hlevel => holds_easier_iff hlevel rank, fun r => holds_easier_iff rfl rank⟩

/-- A letter whose upper case ends in `N`, an `N` without a digit, and a first pair that is no rank. -/
theorem levels_by_first_digit_letters :
    (∃ q, parseQuery "jlpt:<:nŉ2n7 " = ⟨some q, []⟩ ∧
      q.holds (Record.fields { kanji := "火", jlptLevel := "NN3" }) = true) ∧
    (parseQuery "jlpt:<n6n3").errors ≠ [] := by
  have hrank : jlptRank? ":nŉ2n7 " = some 2 := by decide +kernel
  have hsix : IsFirstDigit (Text.upper "n6n3".toList) '6' := levelDigit?_eq_some_iff.mp (by decide +kernel)
  have hnone : jlptRank? "n6n3" = none := levels_by_first_digit.2.1 "n6n3" '6' hsix (by decide)
  obtain ⟨q, hq, -, hholds⟩ :=
    (levels_by_first_digit.2.2 ":nŉ2n7 " (by decide +kernel) (by decide +kernel)).2 2 hrank
  have herrors := (levels_by_first_digit.2.2 "n6n3" (by decide +kernel) (by decide +kernel)).1
  refine ⟨⟨q, hq, (hholds _).mpr ⟨3, by decide +kernel, by decide⟩⟩, fun hno => ?_⟩
  obtain ⟨rank, hrank⟩ := herrors.mp hno
  rw [hnone] at hrank
  cases hrank

end KanjiSearch
