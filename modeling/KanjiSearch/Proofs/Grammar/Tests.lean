import KanjiSearch.Proofs.Grammar.Following
import Mathlib.Data.List.Forall2

/-!
# The tests of a query and their tokens

However faulty a row of tokens is, no test of the query made of it is invented, made twice or out of place: the tests,
from left to right, stand in the row one behind another, each with its own tokens (`Traces`). A query without errors
leaves out nothing but connectives and parentheses (`Accounts`), as long as every range has its dash.

* `Step.traces`, `Course.traces`: a step, and so a course, makes its tests of the tokens that it takes.
* `tests_traced`: the tests of whole rows. Only a range without a dash may be left out without an error.
-/

open KanjiSearch.Parser

namespace KanjiSearch

/-! ## Spans -/

/-- Neighbouring tokens of a row, and the index of the first of them. -/
structure Span where
  start : Nat
  tokens : List Token

/-- The index behind a span. -/
def Span.stop (s : Span) : Nat :=
  s.start + s.tokens.length

/-- The spans of the row `ts` that were read as the tests `qs`: they stand one behind another from the index `n` up to
the index `m`. -/
structure Traces (ts : List Token) (n m : Nat) (spans : List Span) (qs : List Query) : Prop where
  tests : List.Forall₂ (fun s q => TestTokens s.tokens q) spans qs
  places : ∀ s ∈ spans, n ≤ s.start ∧ s.start < s.stop ∧ s.stop ≤ m ∧ s.tokens <+: ts.drop s.start
  ordered : spans.Pairwise fun s u => s.stop ≤ u.start

/-- The tokens of `ts` from the index `n` up to `m` are connectives, parentheses, or in one of the spans. -/
def Accounts (ts : List Token) (n m : Nat) (spans : List Span) : Prop :=
  ∀ i t, n ≤ i → i < m → ts[i]? = some t →
    (∃ s ∈ spans, s.start ≤ i ∧ i < s.stop) ∨ t.kind.isConnective = true ∨ t.kind.isParen = true

/-- No range without a dash. -/
def AllDashed (ts : List Token) : Prop :=
  ∀ t ∈ ts, t.kind = .range → '-' ∈ t.value.toList

section Spans

variable {ts us rest : List Token} {n m k : Nat} {spans spans' : List Span} {qs qs' : List Query} {q : Query}

theorem traces_nil (ts : List Token) (n m : Nat) : Traces ts n m [] [] :=
  ⟨.nil, List.forall_mem_nil _, .nil⟩

theorem traces_test (h : ts.drop n = us ++ rest) (hq : TestTokens us q) :
    Traces ts n (n + us.length) [⟨n, us⟩] [q] := by
  have hlength : 0 < us.length := List.length_pos_iff.mpr hq.ne_nil
  have hprefix : us <+: ts.drop n := h ▸ List.prefix_append us rest
  refine ⟨.cons hq .nil, List.forall_mem_singleton.mpr ?_, List.pairwise_singleton _ _⟩
  exact ⟨Nat.le_refl n, Nat.lt_add_of_pos_right hlength, Nat.le_refl _, hprefix⟩

/-- Spans up to an index, and others from there on. -/
theorem Traces.append (h : Traces ts n m spans qs) (h' : Traces ts m k spans' qs') (hnm : n ≤ m) (hmk : m ≤ k) :
    Traces ts n k (spans ++ spans') (qs ++ qs') := by
  refine ⟨List.rel_append h.tests h'.tests, List.forall_mem_append.mpr ⟨fun s hs => ?_, fun s hs => ?_⟩, ?_⟩
  · obtain ⟨hstart, hlt, hstop, hprefix⟩ := h.places s hs
    exact ⟨hstart, hlt, Nat.le_trans hstop hmk, hprefix⟩
  · obtain ⟨hstart, hplace⟩ := h'.places s hs
    exact ⟨Nat.le_trans hnm hstart, hplace⟩
  · refine List.pairwise_append.mpr ⟨h.ordered, h'.ordered, fun s hs u hu => ?_⟩
    exact Nat.le_trans (h.places s hs).2.2.1 (h'.places u hu).1

theorem Accounts.append (h : Accounts ts n m spans) (h' : Accounts ts m k spans') :
    Accounts ts n k (spans ++ spans') := by
  intro i t hn hk ht
  rcases Nat.lt_or_ge i m with hm | hm
  · exact (h i t hn hm ht).imp_left fun ⟨s, hs, hi⟩ => ⟨s, List.mem_append_left _ hs, hi⟩
  · exact (h' i t hm hk ht).imp_left fun ⟨s, hs, hi⟩ => ⟨s, List.mem_append_right _ hs, hi⟩

/-- Spans end within their row. -/
theorem Traces.le_length (h : Traces ts n m spans qs) : Traces ts n ts.length spans qs := by
  refine ⟨h.tests, fun s hs => ?_, h.ordered⟩
  obtain ⟨hstart, hlt, -, hprefix⟩ := h.places s hs
  have hlength := hprefix.length_le
  rw [List.length_drop] at hlength
  refine ⟨hstart, hlt, ?_, hprefix⟩
  unfold Span.stop at hlt ⊢
  omega

theorem Accounts.mono (h : Accounts ts n m spans) (hk : k ≤ m) : Accounts ts n k spans :=
  fun i t hn hi => h i t hn (Nat.lt_of_lt_of_le hi hk)

theorem accounts_self (ts : List Token) (n : Nat) (spans : List Span) : Accounts ts n n spans :=
  fun _ _ hn hm => absurd (Nat.lt_of_le_of_lt hn hm) (Nat.lt_irrefl _)

/-- One token that is a connective or a parenthesis. -/
theorem accounts_one {t : Token} (h : ts.drop n = t :: rest)
    (ht : t.kind.isConnective = true ∨ t.kind.isParen = true) : Accounts ts n (n + 1) [] := by
  intro i u hn hi hu
  obtain rfl : i = n := by omega
  have hget : ts[i]? = some t := by rw [← List.head?_drop, h]; rfl
  rw [hget] at hu
  cases hu
  exact .inr ht

theorem accounts_span (n : Nat) (us : List Token) : Accounts ts n (n + us.length) [⟨n, us⟩] :=
  fun _ _ hn hm _ => .inl ⟨_, List.mem_singleton_self _, hn, hm⟩

end Spans

/-! ## Steps and courses -/

section Courses

variable {stop : Token} {lossy : Prop} {c d : Cursor} {qs : List Query} {es : List SyntaxError} {ts : List Token}

/-- A step makes its tests of the tokens that it takes, and takes no others unless something is lost. -/
theorem Parser.Step.traces (h : Step stop lossy c qs es d) {n : Nat} (hn : ts.drop n = c.tokens) :
    ∃ m spans, n ≤ m ∧ ts.drop m = d.tokens ∧ Traces ts n m spans qs ∧
      (¬ lossy → AllDashed ts → Accounts ts n m spans) := by
  have hone : ∀ {t : Token} {rest : List Token}, ts.drop n = t :: rest → ts.drop (n + 1) = rest :=
    fun {t} {_} h => drop_add_length [t] h
  cases h with
  | @test room us rest q hq =>
    refine ⟨n + us.length, [⟨n, us⟩], Nat.le_add_right .., drop_add_length us hn, traces_test hn hq, fun _ _ => ?_⟩
    exact accounts_span n us
  | connective ht =>
    exact ⟨n + 1, [], Nat.le_add_right .., hone hn, traces_nil .., fun _ _ => accounts_one hn (.inl ht)⟩
  | opening ht | closing ht =>
    exact ⟨n + 1, [], Nat.le_add_right .., hone hn, traces_nil .., fun _ _ => accounts_one hn (.inr (by rw [ht]; rfl))⟩
  | unclosed | report => exact ⟨n, [], Nat.le_refl n, hn, traces_nil .., fun _ _ => accounts_self ts n []⟩
  | drop hlossy _ => exact ⟨n + 1, [], Nat.le_add_right .., hone hn, traces_nil .., fun h => absurd hlossy h⟩
  | @dashless room p t rest hp ht hdash =>
    have hmem : t ∈ ts := List.mem_of_mem_drop (i := n) (by rw [hn]; simp)
    refine ⟨n + 2, [], Nat.le_add_right .., drop_add_length [p, t] hn, traces_nil .., fun _ hall => ?_⟩
    exact absurd (hall t hmem ht) hdash

theorem Parser.Course.traces (h : Course stop lossy c qs es d) {n : Nat} (hn : ts.drop n = c.tokens) :
    ∃ m spans, n ≤ m ∧ ts.drop m = d.tokens ∧ Traces ts n m spans qs ∧
      (¬ lossy → AllDashed ts → Accounts ts n m spans) := by
  induction h generalizing n with
  | done => exact ⟨n, [], Nat.le_refl n, hn, traces_nil .., fun _ _ => accounts_self ts n []⟩
  | step hs _ ih =>
    obtain ⟨m, spans, hnm, hm, htraces, haccounts⟩ := hs.traces hn
    obtain ⟨k, spans', hmk, hk, htraces', haccounts'⟩ := ih hm
    refine ⟨k, spans ++ spans', Nat.le_trans hnm hmk, hk, htraces.append htraces' hnm hmk, fun hl hd => ?_⟩
    exact (haccounts hl hd).append (haccounts' hl hd)

end Courses

/-! ## Whole rows of tokens -/

/-- **Reading invents no test, makes none twice and keeps their order**: each has a span of tokens of its own. -/
theorem tests_traced (ts : List Token) : ∃ spans : List Span,
    Traces (tokensBeforeEnd ts) 0 (tokensBeforeEnd ts).length spans (testsOf (parseTokens ts).query) ∧
    (AllDashed ts → (parseTokens ts).errors = [] →
      Accounts (tokensBeforeEnd ts) 0 (tokensBeforeEnd ts).length spans) := by
  obtain ⟨rest, h, hrest⟩ | ⟨es, o, more, h, -, herrors⟩ := parseTokens_course ts
  · obtain ⟨m, spans, -, hm, htraces, haccounts⟩ := h.traces List.drop_zero
    refine ⟨spans, htraces.le_length, fun hdash he => ?_⟩
    have hall : (tokensBeforeEnd ts).length ≤ m := List.drop_eq_nil_iff.mp (hm.trans (hrest he))
    have hbefore : AllDashed (tokensBeforeEnd ts) := fun t ht => hdash t ((List.takeWhile_sublist _).mem ht)
    exact (haccounts (fun h => h he) hbefore).mono hall
  · obtain ⟨m, spans, -, hm, htraces, -⟩ := h.traces List.drop_zero
    exact ⟨spans, htraces.le_length, fun _ hnone => absurd (herrors.symm.trans hnone) (by simp)⟩

/-- Three kinds of tests in a query without errors. -/
theorem tests_traced_fire : ∃ spans : List Span,
    Traces (tokensBeforeEnd (tokenize "freq:<=20 & !(fire | jlpt:>n3)")) 0 12 spans
      [.compare .atMost .frequency 20, .search .usual "fire" false, .compare .greater .jlptLevel 3] ∧
    Accounts (tokensBeforeEnd (tokenize "freq:<=20 & !(fire | jlpt:>n3)")) 0 12 spans := by
  have hquery : testsOf (parseTokens (tokenize "freq:<=20 & !(fire | jlpt:>n3)")).query =
      [.compare .atMost .frequency 20, .search .usual "fire" false, .compare .greater .jlptLevel 3] := by decide +kernel
  have herrors : (parseTokens (tokenize "freq:<=20 & !(fire | jlpt:>n3)")).errors = [] := by decide +kernel
  have hlength : (tokensBeforeEnd (tokenize "freq:<=20 & !(fire | jlpt:>n3)")).length = 12 := by decide +kernel
  have hdash : AllDashed (tokenize "freq:<=20 & !(fire | jlpt:>n3)") := by unfold AllDashed; decide +kernel
  obtain ⟨spans, htraces, haccounts⟩ := tests_traced (tokenize "freq:<=20 & !(fire | jlpt:>n3)")
  rw [hlength] at htraces haccounts
  rw [hquery] at htraces
  exact ⟨spans, htraces, haccounts hdash herrors⟩

/-- A range without its dash is left out in silence. -/
example : parseTokens [⟨.field .frequency, "freq", 0⟩, ⟨.range, "7", 5⟩] = ⟨none, []⟩ := by decide +kernel

end KanjiSearch
