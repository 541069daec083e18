import KanjiSearch.Proofs.Grammar.EndOfTokens
import KanjiSearch.Proofs.Grammar.Following

/-!
# Progress of the rules

No rule gives tokens back, a rule that makes a query has taken a token for it, and an operand that starts with one of
its own tokens takes this token even if it makes nothing. So the rows of conjuncts and of disjuncts end, and groups
too. How long they take is counted on runs (`Rule.Run`): a run goes through one call for each rule and one turn for
each part of a row, and each of its calls and turns is justified by those that it waits for, with no measure that makes
them end.

* `Rule.Run.eq_read`: a run comes to what the rule reads.
* `Rule.exists_run`: every rule has a run on all tokens, and so comes to an end.
* `Rule.Run.consumes`: a run that makes a query takes tokens.
* `Rule.Run.cost_le`: a run is at most ten times as long as the row of tokens it takes, up to a constant. An operand
  without a sign before it has to save something, since its turn takes no further token.
* `rules_progress`: all of this, with an end token or without. No rule takes an end token, unless a group too many
  drops all that is left. A rule that makes a query has taken a token, apart from the turns of rows that end with the
  query they were given. The cost is also that of the run that reads a whole row of tokens.
-/

namespace KanjiSearch.Parser

/-! ## Rules and their runs -/

/-- The rules of reading, and the turns of rows, which go on from what stands to the left. -/
inductive Rule where
  | disjunction
  | disjuncts (left : Query)
  | conjunction
  | conjuncts (left : Query)
  | operand
  | primary
  /-- what follows the opening parenthesis `opening` -/
  | group (opening : Token)
  /-- what follows the field `f` -/
  | value (f : Field) (spelling : String)

namespace Rule

/-- What a rule reads when `room` groups may still be opened. -/
def read (stop : Token) (room : Nat) : Rule → List Token → Reading
  | disjunction => Parser.disjunction stop (groupReader stop room)
  | disjuncts left => disjunctsFrom stop (groupReader stop room) left
  | conjunction => Parser.conjunction stop (groupReader stop room)
  | conjuncts left => conjunctsFrom stop (groupReader stop room) left
  | operand => Parser.operand stop (groupReader stop room)
  | primary => Parser.primary stop (groupReader stop room)
  | group opening => (groupReader stop room opening).read
  | value f spelling => fieldValue stop f spelling

/-- The query that a turn of a row goes on from. -/
def given? : Rule → Option Query
  | disjuncts left | conjuncts left => some left
  | _ => none

/-- Whether the rule takes the first token, whatever it makes of it. -/
def takesFirst : Rule → List Token → Bool
  | operand, t :: _ => startsOperand t.kind
  | primary, t :: _ => startsOperand t.kind && t.kind != .not
  | _, _ => false

/-- Runs of rules: `Run stop room rule ts n r` if the rule, given the tokens `ts`, comes to the reading `r` in `n` calls
and turns. -/
inductive Run (stop : Token) : Nat → Rule → List Token → Nat → Reading → Prop
  | disjunction_none {room ts n r} : Run stop room conjunction ts n r → r.query = none →
      Run stop room disjunction ts (n + 1) r
  | disjunction_some {room ts n r left m s} : Run stop room conjunction ts n r → r.query = some left →
      Run stop room (disjuncts left) r.rest m s → Run stop room disjunction ts (n + m + 1) (s.after r.errors)
  | disjuncts_end {room ts left} : (∀ t, ts.head? = some t → t.kind ≠ .or) →
      Run stop room (disjuncts left) ts 1 ⟨some left, ts, []⟩
  | disjuncts_none {room t ts left n r} : t.kind = .or → Run stop room conjunction ts n r → r.query = none →
      Run stop room (disjuncts left) (t :: ts) (n + 1)
        ⟨some left, r.rest, r.errors ++ unlessReported stop (.missingOperand .or) r⟩
  | disjuncts_some {room t ts left right n r m s} : t.kind = .or → Run stop room conjunction ts n r →
      r.query = some right → Run stop room (disjuncts (.or left right)) r.rest m s →
      Run stop room (disjuncts left) (t :: ts) (n + m + 1) (s.after r.errors)
  | conjunction_none {room ts n r} : Run stop room operand ts n r → r.query = none →
      Run stop room conjunction ts (n + 1) r
  | conjunction_some {room ts n r left m s} : Run stop room operand ts n r → r.query = some left →
      Run stop room (conjuncts left) r.rest m s → Run stop room conjunction ts (n + m + 1) (s.after r.errors)
  | conjuncts_end {room ts left} : Stops ts → Run stop room (conjuncts left) ts 1 ⟨some left, ts, []⟩
  | conjuncts_none {room t ts left n r} : t.kind = .and → Run stop room operand ts n r → r.query = none →
      Run stop room (conjuncts left) (t :: ts) (n + 1)
        ⟨some left, r.rest, r.errors ++ unlessReported stop (.missingOperand .and) r⟩
  | conjuncts_some {room t ts left right n r m s} : t.kind = .and → Run stop room operand ts n r →
      r.query = some right → Run stop room (conjuncts (.and left right)) r.rest m s →
      Run stop room (conjuncts left) (t :: ts) (n + m + 1) (s.after r.errors)
  /-- a conjunct without a sign before it, which may come to nothing -/
  | conjuncts_bare {room t ts left n r m s} : startsOperand t.kind = true → Run stop room operand (t :: ts) n r →
      Run stop room (conjuncts (andMaybe left r.query)) r.rest m s →
      Run stop room (conjuncts left) (t :: ts) (n + m + 1) (s.after r.errors)
  | operand_not {room t ts n r} : t.kind = .not → Run stop room primary ts n r →
      Run stop room operand (t :: ts) (n + 1) (negation stop r)
  | operand_primary {room ts n r} : (∀ t, ts.head? = some t → t.kind ≠ .not) → Run stop room primary ts n r →
      Run stop room operand ts (n + 1) r
  | primary_group {room t ts n r} : t.kind = .openParen → Run stop room (group t) ts n r →
      Run stop room primary (t :: ts) (n + 1) r
  | primary_field {room t ts f n r} : t.kind = .field f → Run stop room (value f t.value) ts n r →
      Run stop room primary (t :: ts) (n + 1) r
  /-- a primary that is made at once, or none -/
  | primary_plain {room ts} : (∀ t, ts.head? = some t → t.kind ≠ .openParen ∧ ∀ f, t.kind ≠ .field f) →
      Run stop room primary ts 1 (Parser.primary stop (groupReader stop room) ts)
  | group_refused {opening ts} : Run stop 0 (group opening) ts 1 ⟨none, [], [.on .nestedTooDeeply opening]⟩
  | group_empty {room opening t ts} : t.kind = .closeParen →
      Run stop (room + 1) (group opening) (t :: ts) 1 ⟨none, ts, [.on .emptyGroup t]⟩
  | group_inside {room opening ts n r} : (∀ t, ts.head? = some t → t.kind ≠ .closeParen) →
      Run stop room disjunction ts n r → Run stop (room + 1) (group opening) ts (n + 1) (closeGroup stop r)
  | value {room f spelling ts} : Run stop room (value f spelling) ts 1 (fieldValue stop f spelling ts)

variable {stop : Token} {room n : Nat} {rule : Rule} {ts : List Token} {r : Reading}

/-! ## Runs come to what is read -/

theorem read_group_succ (opening : Token) (h : ∀ t, ts.head? = some t → t.kind ≠ .closeParen) :
    (group opening).read stop (room + 1) ts = closeGroup stop (disjunction.read stop room ts) := by
  have hread : (expression stop room).read ts = disjunction.read stop room ts := by rw [expression_read]; rfl
  rw [← hread]
  cases ts with
  | nil => rfl
  | cons t ts => exact if_neg (h t rfl)

/-- **A run comes to what the rule reads.** -/
theorem Run.eq_read (h : Run stop room rule ts n r) : r = rule.read stop room ts := by
  induction h with
  | disjunction_none _ hq ih =>
    subst ih
    simp only [read] at hq
    simp only [read, Parser.disjunction, hq]
  | disjunction_some _ hq _ ih ih' =>
    subst ih ih'
    simp only [read] at hq
    simp only [read, Parser.disjunction, hq]
  | disjuncts_end h => exact (disjunctsFrom_of_ne_or _ h _).symm
  | disjuncts_none ht _ hq ih => exact (disjunctsFrom_or_none _ ht ih.symm hq _).symm
  | disjuncts_some ht _ hq _ ih ih' =>
    rw [ih']
    exact (disjunctsFrom_or_some _ ht ih.symm hq _).symm
  | conjunction_none _ hq ih =>
    subst ih
    simp only [read] at hq
    simp only [read, Parser.conjunction, hq]
  | conjunction_some _ hq _ ih ih' =>
    subst ih ih'
    simp only [read] at hq
    simp only [read, Parser.conjunction, hq]
  | conjuncts_end h => exact (conjunctsFrom_of_stops _ h _).symm
  | conjuncts_none ht _ hq ih => exact (conjunctsFrom_and_none _ ht ih.symm hq _).symm
  | conjuncts_some ht _ hq _ ih ih' =>
    rw [ih']
    exact (conjunctsFrom_and_some _ ht ih.symm hq _).symm
  | conjuncts_bare ht _ _ ih ih' =>
    rw [ih']
    exact (conjunctsFrom_operand _ ht ih.symm _).symm
  | operand_not ht _ ih =>
    rw [ih]
    exact (if_pos ht).symm
  | operand_primary h _ ih =>
    rw [ih]
    exact (operand_of_ne_not _ h).symm
  | primary_group ht _ ih =>
    rw [ih]
    simp only [read, Parser.primary, ht]
  | primary_field ht _ ih =>
    rw [ih]
    simp only [read, Parser.primary, ht]
  | primary_plain => rfl
  | group_refused => rfl
  | group_empty ht => exact (if_pos ht).symm
  | group_inside h _ ih =>
    rw [ih]
    exact (read_group_succ _ h).symm
  | value => rfl

/-! ## What is left of the tokens -/

theorem read_suffix (rule : Rule) (ts : List Token) : (rule.read stop room ts).rest <:+ ts := by
  cases rule with
  | disjunction => exact disjunction_rest ..
  | disjuncts => exact disjunctsFrom_rest ..
  | conjunction => exact conjunction_rest ..
  | conjuncts => exact conjunctsFrom_rest ..
  | operand => exact operand_rest ..
  | primary => exact primary_rest ..
  | group opening => exact (groupReader stop room opening).suffix ts
  | value => exact fieldValue_rest ..

theorem read_takesFirst (h : rule.takesFirst ts = true) : (rule.read stop room ts).rest.length < ts.length := by
  cases ts with
  | nil => cases rule <;> cases h
  | cons t ts =>
    refine Nat.lt_succ_of_le (List.IsSuffix.length_le ?_)
    cases rule with
    | operand => exact operand_rest_of_starts stop _ ts h
    | primary =>
      rw [takesFirst, Bool.and_eq_true, bne_iff_ne] at h
      exact primary_rest_of_starts stop _ ts h.1 h.2
    | _ => cases h

/-- No rule takes an end token, and only a group too many drops it. -/
theorem read_before_end (rule : Rule) {e : Token} (he : e.kind = .eof) (before after : List Token) :
    (rule.read e room before).InFront (e :: after) (rule.read stop room (before ++ e :: after)) := by
  have hgroup : ∀ t ts, ((groupReader e room t).read ts).InFront (e :: after)
      ((groupReader stop room t).read (ts ++ e :: after)) := groupReader_inFront he room
  cases rule with
  | disjunction => exact disjunction_inFront he hgroup before
  | disjuncts left => exact disjunctsFrom_inFront he hgroup left before
  | conjunction => exact conjunction_inFront he hgroup before
  | conjuncts left => exact conjunctsFrom_inFront he hgroup left before
  | operand => exact operand_inFront he hgroup before
  | primary => exact primary_inFront he hgroup before
  | group opening => exact hgroup opening before
  | value f spelling => exact inFront_of_eq (fieldValue_before he f spelling before)

theorem Run.suffix (h : Run stop room rule ts n r) : r.rest <:+ ts :=
  h.eq_read ▸ read_suffix rule ts

theorem Run.length_le (h : Run stop room rule ts n r) : r.rest.length ≤ ts.length :=
  h.suffix.length_le

theorem Run.length_lt (h : Run stop room rule ts n r) (hfirst : rule.takesFirst ts = true) :
    r.rest.length < ts.length :=
  h.eq_read ▸ read_takesFirst hfirst

theorem value_consumes {f : Field} {spelling : String} {q : Query}
    (h : (fieldValue stop f spelling ts).query = some q) : (fieldValue stop f spelling ts).rest.length < ts.length := by
  generalize hr : fieldValue stop f spelling ts = r at h
  have htakes := hr ▸ fieldValue_takes f spelling ts
  cases htakes with
  | @test us _ rest hvalue =>
    have hus : us ≠ [] := by rintro rfl; cases hvalue
    rw [List.length_append]
    exact Nat.lt_add_of_pos_left (List.length_pos_iff.mpr hus)
  | missing | refused | dashless => cases h

theorem primary_consumes {group : Token → Reader} {q : Query}
    (hplain : ∀ t, ts.head? = some t → t.kind ≠ .openParen ∧ ∀ f, t.kind ≠ .field f)
    (h : (Parser.primary stop group ts).query = some q) : (Parser.primary stop group ts).rest.length < ts.length := by
  cases ts with
  | nil => cases h
  | cons t ts =>
    obtain ⟨hparen, hfield⟩ := hplain t rfl
    revert h
    unfold Parser.primary
    dsimp only
    split <;> simp_all

theorem length_closeGroup (stop : Token) (r : Reading) : (closeGroup stop r).rest.length ≤ r.rest.length :=
  (closeGroup_rest stop r).length_le

/-- **A run that makes a query takes tokens for it**, or it is a turn that ends with the query it was given. -/
theorem Run.consumes (h : Run stop room rule ts n r) {q : Query} (hq : r.query = some q) :
    r.rest.length < ts.length ∨ rule.given? = some q := by
  induction h generalizing q with
  | disjunction_none _ hnone | conjunction_none _ hnone => cases hnone.symm.trans hq
  | disjunction_some _ hleft hmore ih | conjunction_some _ hleft hmore ih =>
    rcases ih hleft with hlt | hgiven
    · exact .inl (Nat.lt_of_le_of_lt hmore.length_le hlt)
    · cases hgiven
  | disjuncts_end | conjuncts_end => exact .inr hq
  | disjuncts_none _ hrun | conjuncts_none _ hrun => exact .inl (Nat.lt_succ_of_le hrun.length_le)
  | disjuncts_some _ hrun _ hmore | conjuncts_some _ hrun _ hmore =>
    exact .inl (Nat.lt_succ_of_le (hmore.length_le.trans hrun.length_le))
  | conjuncts_bare ht hrun hmore =>
    exact .inl (Nat.lt_of_le_of_lt hmore.length_le (hrun.length_lt ht))
  | operand_not _ hrun =>
    rw [negation_rest]
    exact .inl (Nat.lt_succ_of_le hrun.length_le)
  | operand_primary _ _ ih => exact ih hq
  | primary_group _ hrun | primary_field _ hrun => exact .inl (Nat.lt_succ_of_le hrun.length_le)
  | primary_plain hplain => exact .inl (primary_consumes hplain hq)
  | group_refused | group_empty => cases hq
  | group_inside _ _ ih =>
    rw [closeGroup_query] at hq
    obtain ⟨inner, hinner, -⟩ := Option.map_eq_some_iff.mp hq
    rcases ih hinner with hlt | hgiven
    · exact .inl (Nat.lt_of_le_of_lt (length_closeGroup stop _) hlt)
    · cases hgiven
  | value => exact .inl (value_consumes hq)

/-! ## Every rule comes to an end -/

/-- The rule has a run on the tokens. -/
def Ends (stop : Token) (room : Nat) (rule : Rule) (ts : List Token) : Prop :=
  ∃ n r, Run stop room rule ts n r

section Ends

variable (hgroup : ∀ opening ts, Ends stop room (group opening) ts)

include hgroup

theorem ends_primary (ts : List Token) : Ends stop room primary ts := by
  by_cases hplain : ∀ t, ts.head? = some t → t.kind ≠ .openParen ∧ ∀ f, t.kind ≠ .field f
  · exact ⟨_, _, .primary_plain hplain⟩
  · simp only [not_forall, not_and_or, not_not] at hplain
    obtain ⟨t, hhead, hkind⟩ := hplain
    obtain ⟨rest, rfl⟩ := List.head?_eq_some_iff.mp hhead
    rcases hkind with ht | ⟨f, ht⟩
    · obtain ⟨n, r, hrun⟩ := hgroup t rest
      exact ⟨_, _, .primary_group ht hrun⟩
    · exact ⟨_, _, .primary_field ht .value⟩

theorem ends_operand (ts : List Token) : Ends stop room operand ts := by
  by_cases hnot : ∀ t, ts.head? = some t → t.kind ≠ .not
  · obtain ⟨n, r, hrun⟩ := ends_primary hgroup ts
    exact ⟨_, _, .operand_primary hnot hrun⟩
  · simp only [not_forall, not_not] at hnot
    obtain ⟨t, hhead, ht⟩ := hnot
    obtain ⟨rest, rfl⟩ := List.head?_eq_some_iff.mp hhead
    obtain ⟨n, r, hrun⟩ := ends_primary hgroup rest
    exact ⟨_, _, .operand_not ht hrun⟩

/-- Each turn of a conjunction takes a token, so there is a last one. -/
theorem ends_conjuncts (left : Query) (ts : List Token) : Ends stop room (conjuncts left) ts := by
  induction hlength : ts.length using Nat.strongRecOn generalizing left ts with
  | ind k ih =>
    subst hlength
    by_cases hends : Stops ts
    · exact ⟨_, _, .conjuncts_end hends⟩
    · simp only [Stops, not_forall, not_and_or, not_not, Bool.not_eq_false] at hends
      obtain ⟨t, hhead, hkind⟩ := hends
      obtain ⟨rest, rfl⟩ := List.head?_eq_some_iff.mp hhead
      rcases hkind with ht | ht
      · obtain ⟨n, r, hrun⟩ := ends_operand hgroup rest
        cases hq : r.query with
        | none => exact ⟨_, _, .conjuncts_none ht hrun hq⟩
        | some right =>
          obtain ⟨m, s, hmore⟩ := ih _ (Nat.lt_succ_of_le hrun.length_le) (.and left right) r.rest rfl
          exact ⟨_, _, .conjuncts_some ht hrun hq hmore⟩
      · obtain ⟨n, r, hrun⟩ := ends_operand hgroup (t :: rest)
        obtain ⟨m, s, hmore⟩ := ih _ (hrun.length_lt ht) (andMaybe left r.query) r.rest rfl
        exact ⟨_, _, .conjuncts_bare ht hrun hmore⟩

theorem ends_conjunction (ts : List Token) : Ends stop room conjunction ts := by
  obtain ⟨n, r, hrun⟩ := ends_operand hgroup ts
  cases hq : r.query with
  | none => exact ⟨_, _, .conjunction_none hrun hq⟩
  | some left =>
    obtain ⟨m, s, hmore⟩ := ends_conjuncts hgroup left r.rest
    exact ⟨_, _, .conjunction_some hrun hq hmore⟩

/-- Each turn of a disjunction takes its sign, so there is a last one. -/
theorem ends_disjuncts (left : Query) (ts : List Token) : Ends stop room (disjuncts left) ts := by
  induction hlength : ts.length using Nat.strongRecOn generalizing left ts with
  | ind k ih =>
    subst hlength
    by_cases hends : ∀ t, ts.head? = some t → t.kind ≠ .or
    · exact ⟨_, _, .disjuncts_end hends⟩
    · simp only [not_forall, not_not] at hends
      obtain ⟨t, hhead, ht⟩ := hends
      obtain ⟨rest, rfl⟩ := List.head?_eq_some_iff.mp hhead
      obtain ⟨n, r, hrun⟩ := ends_conjunction hgroup rest
      cases hq : r.query with
      | none => exact ⟨_, _, .disjuncts_none ht hrun hq⟩
      | some right =>
        obtain ⟨m, s, hmore⟩ := ih _ (Nat.lt_succ_of_le hrun.length_le) (.or left right) r.rest rfl
        exact ⟨_, _, .disjuncts_some ht hrun hq hmore⟩

theorem ends_disjunction (ts : List Token) : Ends stop room disjunction ts := by
  obtain ⟨n, r, hrun⟩ := ends_conjunction hgroup ts
  cases hq : r.query with
  | none => exact ⟨_, _, .disjunction_none hrun hq⟩
  | some left =>
    obtain ⟨m, s, hmore⟩ := ends_disjuncts hgroup left r.rest
    exact ⟨_, _, .disjunction_some hrun hq hmore⟩

end Ends

/-- What follows an opening parenthesis ends, by induction on the room for groups. -/
theorem ends_group (room : Nat) (opening : Token) (ts : List Token) : Ends stop room (group opening) ts := by
  induction room generalizing opening ts with
  | zero => exact ⟨_, _, .group_refused⟩
  | succ room ih =>
    by_cases hclose : ∀ t, ts.head? = some t → t.kind ≠ .closeParen
    · obtain ⟨n, r, hrun⟩ := ends_disjunction ih ts
      exact ⟨_, _, .group_inside hclose hrun⟩
    · simp only [not_forall, not_not] at hclose
      obtain ⟨t, hhead, ht⟩ := hclose
      obtain ⟨rest, rfl⟩ := List.head?_eq_some_iff.mp hhead
      exact ⟨_, _, .group_empty ht⟩

/-- **Every rule comes to an end** on all tokens. -/
theorem exists_run (stop : Token) (room : Nat) (rule : Rule) (ts : List Token) :
    ∃ n, Run stop room rule ts n (rule.read stop room ts) := by
  have hends : Ends stop room rule ts := by
    cases rule with
    | disjunction => exact ends_disjunction (ends_group room) ts
    | disjuncts left => exact ends_disjuncts (ends_group room) left ts
    | conjunction => exact ends_conjunction (ends_group room) ts
    | conjuncts left => exact ends_conjuncts (ends_group room) left ts
    | operand => exact ends_operand (ends_group room) ts
    | primary => exact ends_primary (ends_group room) ts
    | group opening => exact ends_group room opening ts
    | value => exact ⟨_, _, .value⟩
  obtain ⟨n, r, hrun⟩ := hends
  exact ⟨n, hrun.eq_read ▸ hrun⟩

/-! ## How long runs are -/

/-- The calls and turns that a rule may come to without taking a token. -/
def overhead : Rule → Nat
  | disjunction => 6
  | disjuncts _ => 1
  | conjunction => 4
  | conjuncts _ => 1
  | operand => 2
  | primary => 1
  | group _ => 7
  | value .. => 1

/-- The calls and turns that are saved when the rule takes its first token. -/
def saved (rule : Rule) (ts : List Token) : Nat :=
  if rule.takesFirst ts then 3 else 0

theorem saved_le (rule : Rule) (ts : List Token) : rule.saved ts ≤ 3 := by
  unfold saved
  split <;> decide

theorem saved_operand (h : ∀ t, ts.head? = some t → t.kind ≠ .not) : operand.saved ts = primary.saved ts := by
  cases ts with
  | nil => rfl
  | cons t ts =>
    have ht : (t.kind != .not) = true := bne_iff_ne.mpr (h t rfl)
    rw [saved, saved, takesFirst, takesFirst, ht, Bool.and_true]

theorem saved_of_takesFirst (h : rule.takesFirst ts = true) : rule.saved ts = 3 :=
  if_pos h

/-- **A run is at most ten times as long as the row of tokens that it takes**, up to a constant. -/
theorem Run.cost_le (h : Run stop room rule ts n r) :
    n + 10 * r.rest.length + rule.saved ts ≤ 10 * ts.length + rule.overhead := by
  induction h with
  | disjunction_none _ _ ih | conjunction_none _ _ ih =>
    simp only [saved, takesFirst, overhead, Bool.false_eq_true, if_false] at ih ⊢
    omega
  | disjunction_some _ _ _ ih ih' | conjunction_some _ _ _ ih ih' =>
    simp only [saved, takesFirst, overhead, Bool.false_eq_true, if_false, Reading.after_rest] at ih ih' ⊢
    omega
  | disjuncts_end | conjuncts_end =>
    simp only [saved, takesFirst, overhead, Bool.false_eq_true, if_false]
    omega
  | disjuncts_none _ _ _ ih | conjuncts_none _ _ _ ih =>
    simp only [saved, takesFirst, overhead, Bool.false_eq_true, if_false, List.length_cons] at ih ⊢
    omega
  | disjuncts_some _ _ _ _ ih ih' | conjuncts_some _ _ _ _ ih ih' =>
    simp only [saved, takesFirst, overhead, Bool.false_eq_true, if_false, Reading.after_rest,
      List.length_cons] at ih ih' ⊢
    omega
  | @conjuncts_bare _ t ts _ _ _ _ _ ht _ _ ih ih' =>
    -- The turn is paid for by the token that its operand takes.
    have hsaved : operand.saved (t :: ts) = 3 := saved_of_takesFirst ht
    rw [hsaved] at ih
    simp only [saved, takesFirst, overhead, Bool.false_eq_true, if_false, Reading.after_rest] at ih ih' ⊢
    omega
  | @operand_not _ t ts _ _ _ _ ih =>
    have hsaved := saved_le operand (t :: ts)
    simp only [overhead, negation_rest, List.length_cons] at ih ⊢
    omega
  | operand_primary h _ ih =>
    rw [saved_operand h]
    simp only [overhead] at ih ⊢
    omega
  | @primary_group _ t ts _ _ _ _ ih | @primary_field _ t ts _ _ _ _ _ ih =>
    have hsaved := saved_le primary (t :: ts)
    simp only [overhead, List.length_cons] at ih ⊢
    omega
  | @primary_plain room ts hplain =>
    have hrun : Run stop room primary ts 1 _ := .primary_plain hplain
    cases hfirst : primary.takesFirst ts with
    | true =>
      have hlt := hrun.length_lt hfirst
      rw [saved_of_takesFirst hfirst, overhead]
      omega
    | false =>
      have hle := hrun.length_le
      simp only [saved, hfirst, overhead, Bool.false_eq_true, if_false]
      omega
  | group_refused | group_empty =>
    simp only [saved, takesFirst, overhead, Bool.false_eq_true, if_false, List.length_nil, List.length_cons]
    omega
  | @group_inside _ _ _ _ r _ _ ih =>
    have hclosed := length_closeGroup stop r
    simp only [saved, takesFirst, overhead, Bool.false_eq_true, if_false] at ih ⊢
    omega
  | @value _ f spelling ts =>
    have hle := (fieldValue_rest stop f spelling ts).length_le
    simp only [saved, takesFirst, overhead, Bool.false_eq_true, if_false]
    omega

theorem overhead_le (rule : Rule) : rule.overhead ≤ 7 := by
  cases rule <;> simp [overhead]

/-- Where an end token stands in front of what is left, all is left from there on, or all has been dropped. -/
theorem read_end (rule : Rule) {before after : List Token} {e : Token} (he : e.kind = .eof) :
    e :: after <:+ (rule.read stop room (before ++ e :: after)).rest ∨
      (rule.read stop room (before ++ e :: after)).isCut = true ∧
        (rule.read stop room (before ++ e :: after)).rest = [] := by
  have hfront : (rule.read e room before).InFront (e :: after) (rule.read stop room (before ++ e :: after)) :=
    rule.read_before_end he before after
  generalize rule.read e room before = r at hfront
  generalize rule.read stop room (before ++ e :: after) = s at hfront ⊢
  cases hfront with
  | all => exact .inl (List.suffix_append _ _)
  | cut hrest hcut => exact .inr ⟨hcut, hrest⟩

end Rule

end KanjiSearch.Parser

open KanjiSearch.Parser

namespace KanjiSearch

/-- **The rules make progress**, and so each has a run on all tokens, with at most ten calls and turns for each token,
and seven. -/
theorem rules_progress :
    (∀ (stop : Token) (room : Nat) (rule : Rule) (ts : List Token),
      (rule.read stop room ts).rest <:+ ts ∧
      (∀ before e after, ts = before ++ e :: after → e.kind = .eof →
        e :: after <:+ (rule.read stop room ts).rest ∨
          (rule.read stop room ts).isCut = true ∧ (rule.read stop room ts).rest = []) ∧
      ∀ q, (rule.read stop room ts).query = some q →
        (rule.read stop room ts).rest.length < ts.length ∨ rule.given? = some q) ∧
    (∀ (stop : Token) (room : Nat) (t : Token) (ts : List Token), startsOperand t.kind = true →
      (Rule.operand.read stop room (t :: ts)).rest <:+ ts) ∧
    (∀ (stop : Token) (room : Nat) (rule : Rule) (ts : List Token),
      (∃ n, Rule.Run stop room rule ts n (rule.read stop room ts)) ∧
      ∀ n r, Rule.Run stop room rule ts n r → r = rule.read stop room ts ∧ n ≤ 10 * ts.length + 7) ∧
    ∀ ts : List Token, ∃ n r, Rule.Run (standIn ts) maxNesting .disjunction ts n r ∧ n ≤ 10 * ts.length + 7 ∧
      parseTokens ts = if (here (standIn ts) ts).kind = .eof then ⟨none, []⟩ else .ofReading (standIn ts) r := by
  have hcost : ∀ {stop room rule ts n r}, Rule.Run stop room rule ts n r → n ≤ 10 * ts.length + 7 := by
    intro stop room rule ts n r hrun
    have hbound := hrun.cost_le
    have hoverhead := rule.overhead_le
    omega
  refine ⟨fun stop room rule ts => ⟨rule.read_suffix ts, ?_, fun q hq => ?_⟩,
    fun stop room t ts ht => operand_rest_of_starts stop _ ts ht,
    fun stop room rule ts => ⟨rule.exists_run stop room ts, fun n r hrun => ⟨hrun.eq_read, hcost hrun⟩⟩, fun ts => ?_⟩
  · rintro before e after rfl he
    exact rule.read_end he
  · obtain ⟨n, hrun⟩ := rule.exists_run stop room ts
    exact hrun.consumes hq
  · obtain ⟨n, hrun⟩ := Rule.disjunction.exists_run (standIn ts) maxNesting ts
    refine ⟨n, _, hrun, hcost hrun, ?_⟩
    rw [parseTokens, expression_read]
    rfl

/-- A `!` without an operand is taken, and a text is read up to the end token behind it. -/
theorem rules_progress_not :
    (Rule.operand.read (standIn []) 0 [⟨.not, "!", 0⟩]).rest <:+ [] ∧
    ((Rule.primary.read (standIn []) 0 [⟨.text, "a", 0⟩, ⟨.eof, "", 1⟩]).rest.length < 2 ∨
      Rule.primary.given? = some (.search .usual "a" false)) ∧
    ([⟨.eof, "", 1⟩] <:+ (Rule.primary.read (standIn []) 0 [⟨.text, "a", 0⟩, ⟨.eof, "", 1⟩]).rest ∨
      (Rule.primary.read (standIn []) 0 [⟨.text, "a", 0⟩, ⟨.eof, "", 1⟩]).isCut = true ∧
        (Rule.primary.read (standIn []) 0 [⟨.text, "a", 0⟩, ⟨.eof, "", 1⟩]).rest = []) := by
  obtain ⟨-, hend, hquery⟩ := rules_progress.1 (standIn []) 0 .primary [⟨.text, "a", 0⟩, ⟨.eof, "", 1⟩]
  exact ⟨rules_progress.2.1 _ _ _ _ rfl, hquery _ rfl, hend [⟨.text, "a", 0⟩] ⟨.eof, "", 1⟩ [] rfl rfl⟩

end KanjiSearch
