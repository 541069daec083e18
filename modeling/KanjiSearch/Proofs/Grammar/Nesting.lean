import KanjiSearch.Proofs.Grammar.Following
import Mathlib.Data.List.Basic

/-!
# The nesting of groups

A group is open from its parenthesis on, until another parenthesis ends it or it is given up, which is reported as a
group without an end. So the groups that are open somewhere can be counted from the tokens before this place and the
errors reported there (`openGroups`), and reading opens as many as it takes from the room for groups.

* `Step.openGroups`, `Course.openGroups`: what a step, and so a course, does to the open groups.
* `nesting_limited`: a row of tokens has one group too many exactly at a parenthesis where all groups that may be open
  are open, this error is the last one, and the query never nests more groups. It has none where opening parentheses
  never outnumber closing ones by more than the limit.
-/

open KanjiSearch.Parser

namespace KanjiSearch

/-- The number of groups open behind the tokens `ts`, with the errors `es` reported there: those opened, without those
ended by a parenthesis and those given up. -/
def openGroups (ts : List Token) (es : List SyntaxError) : Int :=
  ts.countP (·.kind == .openParen) - ts.countP (·.kind == .closeParen) - es.countP (·.fault == .unclosedGroup)

section Counting

variable {t : Token} {ts : List Token}

theorem openGroups_append (ts us : List Token) (es fs : List SyntaxError) :
    openGroups (ts ++ us) (es ++ fs) = openGroups ts es + openGroups us fs := by
  simp only [openGroups, List.countP_append]
  omega

/-- Tokens that are no parentheses open no group and end none. -/
theorem openGroups_of_isParen (h : ∀ t ∈ ts, t.kind.isParen = false) : openGroups ts [] = 0 := by
  have hopen : ts.countP (·.kind == .openParen) = 0 :=
    List.countP_eq_zero.mpr fun t ht heq => by simpa [eq_of_beq heq, TokenKind.isParen] using h t ht
  have hclose : ts.countP (·.kind == .closeParen) = 0 :=
    List.countP_eq_zero.mpr fun t ht heq => by simpa [eq_of_beq heq, TokenKind.isParen] using h t ht
  simp [openGroups, hopen, hclose]

theorem openGroups_of_openParen (ht : t.kind = .openParen) : openGroups [t] [] = 1 := by
  simp [openGroups, ht]

theorem openGroups_of_closeParen (ht : t.kind = .closeParen) : openGroups [t] [] = -1 := by
  simp [openGroups, ht]

theorem openGroups_of_unclosed (t : Token) : openGroups [] [.on .unclosedGroup t] = -1 := by
  simp [openGroups, SyntaxError.on]

theorem isParen_of_isConnective {kind : TokenKind} (h : kind.isConnective = true) : kind.isParen = false := by
  cases kind <;> first | rfl | cases h

end Counting

section Courses

variable {stop : Token} {lossy : Prop} {c d : Cursor} {qs : List Query} {es : List SyntaxError}

/-- A step opens as many groups as it takes from the room for them. -/
theorem Parser.Step.openGroups (h : Step stop lossy c qs es d) :
    ∃ us, c.tokens = us ++ d.tokens ∧ openGroups us es = c.room - d.room := by
  have hplain : ∀ (room : Nat) (us : List Token), (∀ t ∈ us, t.kind.isParen = false) →
      KanjiSearch.openGroups us [] = room - room := by
    intro room us hus
    rw [openGroups_of_isParen hus, Int.sub_self]
  have hended : ∀ room : Nat, (-1 : Int) = room - (room + 1 : Nat) := by
    intro room
    omega
  cases h with
  | @test room us _ _ hq => exact ⟨us, rfl, hplain room us hq.isParen⟩
  | @connective room t _ ht =>
    exact ⟨[t], rfl, hplain room [t] (List.forall_mem_singleton.mpr (isParen_of_isConnective ht))⟩
  | @drop room t _ _ ht => exact ⟨[t], rfl, hplain room [t] (List.forall_mem_singleton.mpr ht)⟩
  | @dashless room p t _ hp ht =>
    refine ⟨[p, t], rfl, hplain room [p, t] ?_⟩
    simp [hp, ht, TokenKind.isParen]
  | @opening room t _ ht =>
    have hroom : ((room + 1 : Nat) : Int) - room = 1 := by omega
    exact ⟨[t], rfl, (openGroups_of_openParen ht).trans hroom.symm⟩
  | @closing room t _ ht => exact ⟨[t], rfl, (openGroups_of_closeParen ht).trans (hended room)⟩
  | @unclosed room => exact ⟨[], rfl, (openGroups_of_unclosed _).trans (hended room)⟩
  | @report room _ fault hf =>
    have hne : fault ≠ .unclosedGroup := by rintro rfl; cases hf
    exact ⟨[], rfl, by simp [KanjiSearch.openGroups, SyntaxError.on, hne]⟩

theorem Parser.Course.openGroups (h : Course stop lossy c qs es d) :
    ∃ us, c.tokens = us ++ d.tokens ∧ openGroups us es = c.room - d.room := by
  induction h with
  | @done c => exact ⟨[], rfl, (Int.sub_self _).symm⟩
  | step hs _ ih =>
    obtain ⟨us, hus, hfirst⟩ := hs.openGroups
    obtain ⟨vs, hvs, hmore⟩ := ih
    refine ⟨us ++ vs, by rw [hus, hvs, List.append_assoc], ?_⟩
    rw [openGroups_append, hfirst, hmore]
    omega

end Courses

/-! ## Whole rows of tokens -/

/-- A group too many is the last error, and stands where all groups are open that may be. -/
theorem last_of_nestedTooDeeply {ts : List Token} {before after : List SyntaxError} {e : SyntaxError}
    (he : (parseTokens ts).errors = before ++ e :: after) (hfault : e.fault = .nestedTooDeeply) :
    after = [] ∧ (∀ d ∈ before, d.fault ≠ .nestedTooDeeply) ∧ ∃ us o more, tokensBeforeEnd ts = us ++ o :: more ∧
      o.kind = .openParen ∧ e = .on .nestedTooDeeply o ∧ openGroups us before = maxNesting := by
  obtain ⟨rest, h, -⟩ | ⟨es, o, more, h, ho, herrors⟩ := parseTokens_course ts
  · exact absurd hfault (h.not_tooDeep e (by simp [he]))
  · obtain ⟨us, hus, hopen⟩ := h.openGroups
    have hothers := h.not_tooDeep
    rw [he] at herrors
    rcases List.eq_nil_or_concat' after with rfl | ⟨between, last, rfl⟩
    · obtain ⟨rfl, hlast⟩ := List.append_inj' herrors rfl
      exact ⟨rfl, hothers, us, o, more, hus, ho, (List.cons.inj hlast).1, by simpa using hopen⟩
    · rw [← List.cons_append, ← List.append_assoc] at herrors
      obtain ⟨rfl, -⟩ := List.append_inj' herrors rfl
      exact absurd hfault (hothers e (by simp))

/-- **The limit on nesting is exact and is reported once**, as the last error, at a parenthesis before which as many
groups are open as may be. -/
theorem nesting_limited (ts : List Token) :
    (∀ q, (parseTokens ts).query = some q → q.nesting ≤ maxNesting) ∧
    (∀ before e after, (parseTokens ts).errors = before ++ e :: after → e.fault = .nestedTooDeeply →
      after = [] ∧ (∀ d ∈ before, d.fault ≠ .nestedTooDeeply) ∧ ∃ us o more, tokensBeforeEnd ts = us ++ o :: more ∧
        o.kind = .openParen ∧ e = .on .nestedTooDeeply o ∧ openGroups us before = maxNesting) ∧
    ((∀ us, us <+: ts → us.countP (·.kind == .openParen) ≤ us.countP (·.kind == .closeParen) + maxNesting) →
      ∀ e ∈ (parseTokens ts).errors, e.fault ≠ .nestedTooDeeply) := by
  refine ⟨fun q hq => nesting_le_of_parseTokens hq, fun before e after he hfault =>
    last_of_nestedTooDeeply he hfault, fun hbalance e he hfault => ?_⟩
  obtain ⟨before, after, herrors⟩ := List.append_of_mem he
  obtain ⟨-, -, us, o, more, hts, ho, -, hopen⟩ := last_of_nestedTooDeeply herrors hfault
  have hbefore : us ++ [o] <+: tokensBeforeEnd ts := ⟨more, by rw [hts, List.append_assoc]; rfl⟩
  have hcount := hbalance _ (hbefore.trans (List.takeWhile_prefix _))
  have hopened : (us ++ [o]).countP (·.kind == .openParen) = us.countP (·.kind == .openParen) + 1 := by simp [ho]
  have hclosed : (us ++ [o]).countP (·.kind == .closeParen) = us.countP (·.kind == .closeParen) := by simp [ho]
  rw [hopened, hclosed] at hcount
  unfold openGroups at hopen
  omega

/-- A group that is given up, and behind it one group too many; and groups without an end, but not too many. -/
theorem nesting_limited_given_up :
    let o : Token := ⟨.openParen, "(", 0⟩
    let ts : List Token := [⟨.text, "fire", 0⟩, o, ⟨.and, "&", 0⟩] ++ List.replicate 101 o
    (∃ us more, tokensBeforeEnd ts = us ++ o :: more ∧
      openGroups us [.on .emptyGroup ⟨.and, "&", 0⟩, .on .unclosedGroup ⟨.and, "&", 0⟩] = maxNesting) ∧
    ∀ e ∈ (parseTokens (List.replicate 100 o)).errors, e.fault ≠ .nestedTooDeeply := by
  intro o ts
  have herrors : (parseTokens ts).errors = [.on .emptyGroup ⟨.and, "&", 0⟩, .on .unclosedGroup ⟨.and, "&", 0⟩] ++
      [.on .nestedTooDeeply o] := by decide +kernel
  have hbalance : ∀ us, us <+: List.replicate 100 o →
      us.countP (·.kind == .openParen) ≤ us.countP (·.kind == .closeParen) + maxNesting := by
    intro us hus
    have hlength : us.length ≤ maxNesting := by simpa [maxNesting] using hus.length_le
    exact Nat.le_trans (Nat.le_trans List.countP_le_length hlength) (Nat.le_add_left _ _)
  obtain ⟨-, -, us, p, more, hts, -, hp, hopen⟩ := (nesting_limited ts).2.1 _ _ [] herrors rfl
  obtain rfl : o = p := Option.some.inj (SyntaxError.mk.inj hp).2.2
  exact ⟨⟨us, more, hts, hopen⟩, (nesting_limited (List.replicate 100 o)).2.2 hbalance⟩

end KanjiSearch
