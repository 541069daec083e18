import KanjiSearch.Proofs.Grammar.Completeness
import KanjiSearch.Proofs.Grammar.Course
import KanjiSearch.Proofs.Text.Pieces
import Mathlib.Tactic.NthRewrite

/-!
# Readings run in courses

Whatever tokens a rule is given, and whatever faults it meets, it makes the tests of its query and reports its errors in
one course over these tokens (`Reading.Runs`). Only a group too many ends a course before its time. Rules that go on
with a query add to its tests, and no group of the query lies deeper than there is room for groups
(`Reading.Follows`).

* `fieldValue_takes`: what the value of a field may come to.
* `operand_follows`, `disjunction_follows`: the rules, given this of what follows an opening parenthesis.
* `groupReader_follows`: what follows an opening parenthesis, by induction on the room for groups.
* `parseTokens_course`, `nesting_le_of_parseTokens`: whole rows of tokens.
-/

namespace KanjiSearch.Parser

/-! ## Readings as courses -/

/-- How a reading of `ts` made the tests `qs`: in a whole course, or in one that was cut at a group without room. -/
inductive Reading.Runs (stop : Token) (room : Nat) (ts : List Token) (qs : List Query) (r : Reading) : Prop
  | whole : Course stop (r.errors ≠ []) ⟨room, ts⟩ qs r.errors ⟨room, r.rest⟩ → r.Runs stop room ts qs
  | cut {es t more} : Course stop True ⟨room, ts⟩ qs es ⟨0, t :: more⟩ → t.kind = .openParen → r.rest = [] →
      r.errors = es ++ [.on .nestedTooDeeply t] → r.Runs stop room ts qs

/-- A reading of `ts` went on from the tests `before`, and the groups of its query fit into the room for them. -/
structure Reading.Follows (stop : Token) (room : Nat) (ts : List Token) (before : List Query) (r : Reading) :
    Prop where
  runs : ∃ qs, testsOf r.query = before ++ qs ∧ r.Runs stop room ts qs
  nesting_le : ∀ q, r.query = some q → q.nesting ≤ room

section Readings

variable {stop t : Token} {room : Nat} {ts rest : List Token} {qs qs' before : List Query} {r next : Reading}
  {c : Cursor}

/-- A step before a reading. -/
theorem Reading.Runs.cons (h : r.Runs stop room ts qs)
    (hs : ∀ lossy, Step stop lossy ⟨room, t :: ts⟩ [] [] ⟨room, ts⟩) : r.Runs stop room (t :: ts) qs := by
  cases h with
  | whole h => exact .whole (.cons (hs _) h)
  | cut h ht hrest he => exact .cut (.cons (hs _) h) ht hrest he

/-- One reading after another. When nothing is left for the second one, it must be silent. -/
theorem Reading.Runs.andThen (h : r.Runs stop room ts qs) (hnext : next.Runs stop room r.rest qs')
    (hsilent : r.rest = [] → next.errors = []) : (next.after r.errors).Runs stop room ts (qs ++ qs') := by
  have hboth : (next.after r.errors).errors = r.errors ++ next.errors := rfl
  cases h with
  | whole h =>
    cases hnext with
    | whole hnext =>
      refine .whole ((h.mono fun he => ?_).trans (hnext.mono fun he => ?_)) <;> simp [hboth, he]
    | cut hnext ht hrest he =>
      exact .cut ((h.mono fun _ => trivial).trans hnext) ht hrest (by rw [hboth, he, List.append_assoc])
  | cut h ht hrest he =>
    have hquiet := hsilent hrest
    cases hnext with
    | whole hnext =>
      obtain ⟨rfl, hdone⟩ := hnext.of_nil hrest
      exact .cut (by simpa using h) ht hdone (by rw [hboth, hquiet, List.append_nil, he])
    | cut _ _ _ he' => simp [he'] at hquiet

theorem Course.missing (h : Course stop (r.errors ≠ []) c qs r.errors ⟨room, r.rest⟩) {fault : Fault}
    (hf : fault.isOfGroups = false) : Course stop (r.errors ++ unlessReported stop fault r ≠ []) c qs
      (r.errors ++ unlessReported stop fault r) ⟨room, r.rest⟩ := by
  unfold unlessReported
  cases hr : r.errors with
  | nil =>
    rw [hr] at h
    exact (h.mono fun h => absurd rfl h).concat (.report hf)
  | cons e es =>
    rw [hr] at h
    simpa using h

/-- A rule that ended without what it needs. -/
theorem Reading.Runs.missing (h : r.Runs stop room ts qs) (q : Option Query) {fault : Fault}
    (hf : fault.isOfGroups = false) :
    Reading.Runs stop room ts qs ⟨q, r.rest, r.errors ++ unlessReported stop fault r⟩ := by
  cases h with
  | whole h => exact .whole (h.missing hf)
  | cut h ht hrest he => exact .cut h ht hrest (by simp [unlessReported, he])

/-- Courses make tests, whatever query these become. -/
theorem Reading.Runs.setQuery (h : r.Runs stop room ts qs) (q : Option Query) :
    Reading.Runs stop room ts qs ⟨q, r.rest, r.errors⟩ := by
  cases h with
  | whole h => exact .whole h
  | cut h ht hrest he => exact .cut h ht hrest he

theorem Reading.Follows.of_none (h : r.Runs stop room ts []) (hq : r.query = none) : r.Follows stop room ts [] :=
  ⟨⟨[], by simp [hq, testsOf], h⟩, by simp [hq]⟩

/-- A rule that made nothing and reported this. -/
theorem Reading.Follows.of_error {e : SyntaxError} (h : Course stop True ⟨room, ts⟩ [] [e] ⟨room, rest⟩) :
    Reading.Follows stop room ts [] ⟨none, rest, [e]⟩ :=
  .of_none (.whole (h.mono fun _ => List.cons_ne_nil _ _)) rfl

/-- A rule that made a test. -/
theorem Reading.Follows.of_test {q : Query} {us : List Token} (h : TestTokens us q) (room : Nat) (rest : List Token) :
    Reading.Follows stop room (us ++ rest) [] ⟨some q, rest, []⟩ := by
  obtain ⟨htests, hnesting⟩ := h.isTest
  refine ⟨⟨[q], htests, .whole (.single (.test h))⟩, ?_⟩
  rintro _ ⟨⟩
  exact hnesting ▸ Nat.zero_le room

/-- A query that stays as it was, with nothing more taken. -/
theorem Reading.Follows.stay {q : Query} (hq : q.nesting ≤ room) (ts : List Token) :
    Reading.Follows stop room ts q.tests ⟨some q, ts, []⟩ :=
  ⟨⟨[], by simp [testsOf], .whole .done⟩, by rintro _ ⟨⟩; exact hq⟩

theorem Reading.Follows.cons (h : r.Follows stop room ts before)
    (hs : ∀ lossy, Step stop lossy ⟨room, t :: ts⟩ [] [] ⟨room, ts⟩) : r.Follows stop room (t :: ts) before := by
  obtain ⟨⟨qs, hqs, hruns⟩, hn⟩ := h
  exact ⟨⟨qs, hqs, hruns.cons hs⟩, hn⟩

/-- The course of a reading that started with nothing. -/
theorem Reading.Follows.runs_tests (h : r.Follows stop room ts []) : r.Runs stop room ts (testsOf r.query) := by
  obtain ⟨qs, hqs, hruns⟩ := h.runs
  rw [hqs]
  exact hruns

/-- A reading that goes on from what another one made. -/
theorem Reading.Follows.andThen (h : r.Follows stop room ts [])
    (hnext : next.Follows stop room r.rest (before ++ testsOf r.query)) (hsilent : r.rest = [] → next.errors = []) :
    (next.after r.errors).Follows stop room ts before := by
  obtain ⟨⟨qs, hqs, hruns⟩, hn⟩ := hnext
  exact ⟨⟨testsOf r.query ++ qs, by rw [← List.append_assoc]; exact hqs, h.runs_tests.andThen hruns hsilent⟩, hn⟩

/-- A row that ends because its next part made nothing. -/
theorem Reading.Follows.missing {left : Query} (h : r.Follows stop room ts []) (hr : r.query = none)
    (hleft : left.nesting ≤ room) {fault : Fault} (hf : fault.isOfGroups = false) :
    Reading.Follows stop room ts left.tests ⟨some left, r.rest, r.errors ++ unlessReported stop fault r⟩ := by
  have hruns := h.runs_tests
  rw [hr] at hruns
  refine ⟨⟨[], (List.append_nil _).symm, hruns.missing _ hf⟩, ?_⟩
  rintro _ ⟨⟩
  exact hleft

end Readings

/-! ## Values of fields -/

/-- What the rule for the value of the field `f` makes of the tokens behind its name. -/
inductive Takes (stop : Token) (f : Field) : List Token → Reading → Prop
  | test {us q rest} : FieldTokens f us q → Takes stop f (us ++ rest) ⟨some q, rest, []⟩
  /-- a fault at the first token that is left -/
  | missing {us rest fault} : (∀ t ∈ us, t.kind.isParen = false) → fault.isOfGroups = false →
      Takes stop f (us ++ rest) ⟨none, rest, [.on fault (here stop rest)]⟩
  /-- a fault at the last token that was taken -/
  | refused {us t rest fault} : (∀ t ∈ us, t.kind.isParen = false) → t.kind.isParen = false →
      fault.isOfGroups = false → Takes stop f (us ++ t :: rest) ⟨none, rest, [.on fault t]⟩
  | dashless {t rest} : f = .frequency → t.kind = .range → '-' ∉ t.value.toList →
      Takes stop f (t :: rest) ⟨none, rest, []⟩

section Values

variable {stop t : Token} {f : Field} {ts us rest : List Token}

theorem textValue_takes (spelling : String) (ts : List Token) : Takes stop f ts (textValue stop f spelling ts) := by
  have hnil : ∀ t ∈ ([] : List Token), t.kind.isParen = false := List.forall_mem_nil _
  unfold textValue
  split
  · exact .missing hnil rfl
  · split
    · next ht => exact .test (.text ht)
    · next ht => exact .test (.quoted ht)
    · exact .missing hnil rfl

theorem withNumber_takes (hus : ∀ t ∈ us, t.kind.isParen = false) (ht : t.kind.isParen = false) {digits : List Char}
    {use : UInt64 → Reading} (huse : ∀ n, Text.count? digits = some n → Takes stop f (us ++ t :: rest) (use n)) :
    Takes stop f (us ++ t :: rest) (withNumber t digits rest use) := by
  unfold withNumber
  split
  · next hn => exact huse _ hn
  · exact .refused hus ht rfl

theorem comparedFrequency_takes {o : Token} {op : Comparison} (ho : comparison? o.kind = some op) (ts : List Token) :
    Takes stop .frequency (o :: ts) (comparedFrequency stop op ts) := by
  have hop : ∀ t ∈ [o], t.kind.isParen = false := List.forall_mem_singleton.mpr (isParen_of_comparison? ho)
  unfold comparedFrequency
  split
  · exact .missing hop rfl
  · next t rest =>
    split
    · next ht =>
      exact withNumber_takes hop (by simp [ht, TokenKind.isParen]) fun n hn => .test (.comparison rfl ho ht hn)
    · exact .missing hop rfl

theorem comparedLevel_takes {o : Token} {op : Comparison} (ho : comparison? o.kind = some op) (ts : List Token) :
    Takes stop .jlptLevel (o :: ts) (comparedLevel stop op ts) := by
  have hop : ∀ t ∈ [o], t.kind.isParen = false := List.forall_mem_singleton.mpr (isParen_of_comparison? ho)
  unfold comparedLevel
  split
  · exact .missing hop rfl
  · next t rest =>
    split
    · next ht =>
      split
      · next hrank => exact .test (.level rfl ho ht hrank)
      · exact .refused hop (by simp [ht, TokenKind.isParen]) rfl
    · exact .missing hop rfl

theorem rangeValue_takes (ht : t.kind = .range) (rest : List Token) :
    Takes stop .frequency (t :: rest) (rangeValue .frequency t rest) := by
  have hnil : ∀ t ∈ ([] : List Token), t.kind.isParen = false := List.forall_mem_nil _
  have hparen : t.kind.isParen = false := by simp [ht, TokenKind.isParen]
  unfold rangeValue
  split
  · next hdash => exact .dashless rfl ht (Text.not_mem_of_splitOnce hdash)
  · next low high hdash =>
    exact withNumber_takes hnil hparen fun min hmin => withNumber_takes hnil hparen fun max hmax =>
      .test (.range rfl ht hdash hmin hmax)

/-- **What the value of a field may come to.** -/
theorem fieldValue_takes (f : Field) (spelling : String) (ts : List Token) :
    Takes stop f ts (fieldValue stop f spelling ts) := by
  unfold fieldValue
  split
  · exact textValue_takes ..
  · next t rest =>
    split
    · next ho => exact comparedFrequency_takes ho rest
    · next ho => exact comparedLevel_takes ho rest
    · split
      · next ht => exact rangeValue_takes ht rest
      · next ht =>
        exact withNumber_takes (List.forall_mem_nil _) (by simp [ht, TokenKind.isParen]) fun n hn =>
          .test (.number rfl ht hn)
      · exact textValue_takes ..
    · exact textValue_takes ..

theorem Takes.follows {r : Reading} (h : Takes stop f ts r) {p : Token} (hp : p.kind = .field f) (room : Nat) :
    r.Follows stop room (p :: ts) [] := by
  have hname : p.kind.isParen = false := by simp [hp, TokenKind.isParen]
  cases h with
  | test hv => exact .of_test (.field hp hv) room _
  | missing hus hf => exact .of_error (.cons (.drop trivial hname) ((Course.drop trivial hus).concat (.report hf)))
  | @refused us t rest fault hus ht hf =>
    have hreport : Course stop True ⟨room, us ++ t :: rest⟩ [] [.on fault t] ⟨room, t :: rest⟩ :=
      (Course.drop trivial hus).concat (.report hf)
    exact .of_error (.cons (.drop trivial hname) (hreport.concat (.drop trivial ht)))
  | dashless hfield ht hdash =>
    subst hfield
    exact .of_none (.whole (.single (.dashless hp ht hdash))) rfl

end Values

/-! ## Operands and their rows -/

section Rules

variable {stop : Token} {room : Nat} {group : Token → Reader}
  (hgroup : ∀ t ts, t.kind = .openParen → ((group t).read ts).Follows stop room (t :: ts) [])

theorem tests_andMaybe (left : Query) (q : Option Query) :
    (andMaybe left q).tests = left.tests ++ testsOf q := by
  cases q <;> simp [andMaybe, Query.tests, testsOf]

/-- The tokens that are passed over behind a word with a colon that spells no field. -/
theorem exists_skipValue (ts : List Token) :
    ∃ us, ts = us ++ skipValue ts ∧ ∀ t ∈ us, t.kind.isParen = false := by
  have hvalue : ∀ {kind}, isValue kind = true → kind.isParen = false := by
    intro kind h
    cases kind <;> first | rfl | cases h
  unfold skipValue
  split
  · split
    · next t rest ht => exact ⟨[t], rfl, List.forall_mem_singleton.mpr (hvalue ht)⟩
    · exact ⟨[], rfl, List.forall_mem_nil _⟩
  · exact ⟨[], rfl, List.forall_mem_nil _⟩

/-- A token that is reported and given up, with some tokens behind it. -/
theorem Reading.Follows.refused {t : Token} {rest : List Token} {fault : Fault} (hf : fault.isOfGroups = false)
    (us : List Token) (hus : ∀ u ∈ t :: us, u.kind.isParen = false) (room : Nat) :
    Reading.Follows stop room (t :: (us ++ rest)) [] ⟨none, rest, [.on fault t]⟩ := by
  have hreport : Course stop True ⟨room, t :: (us ++ rest)⟩ [] [.on fault t] ⟨room, t :: (us ++ rest)⟩ :=
    .single (.report hf)
  exact .of_error (by simpa using hreport.trans (Course.drop trivial hus))

include hgroup

theorem primary_follows (ts : List Token) : (primary stop group ts).Follows stop room ts [] := by
  unfold primary
  split
  · exact .of_none (.whole .done) rfl
  · next t rest =>
    split
    · next ht => exact hgroup t rest ht
    · next f ht => exact (fieldValue_takes f t.value rest).follows ht room
    · next ht =>
      obtain ⟨us, hrest, hus⟩ := exists_skipValue rest
      have hall : ∀ u ∈ t :: us, u.kind.isParen = false :=
        List.forall_mem_cons.mpr ⟨by simp [ht, TokenKind.isParen], hus⟩
      nth_rewrite 1 [hrest]
      exact .refused rfl us hall room
    · next ht => exact .of_test (.text ht) room rest
    · next ht => exact .of_test (.quoted ht) room rest
    · next ht =>
      exact .refused rfl [] (List.forall_mem_singleton.mpr (by simp [ht, TokenKind.isParen])) room
    · exact .of_none (.whole .done) rfl

omit hgroup in
theorem negation_follows {r : Reading} {ts : List Token} (h : r.Follows stop room ts []) :
    (negation stop r).Follows stop room ts [] := by
  have hruns := h.runs_tests
  unfold negation
  split
  · next q hq =>
    rw [hq] at hruns
    refine ⟨⟨q.tests, rfl, hruns.setQuery _⟩, ?_⟩
    rintro _ ⟨⟩
    exact h.nesting_le q hq
  · next hq =>
    rw [hq] at hruns
    exact .of_none (hruns.missing none rfl) rfl

theorem operand_follows (ts : List Token) : (operand stop group ts).Follows stop room ts [] := by
  unfold operand
  split
  · exact primary_follows hgroup []
  · next t rest =>
    split
    · next ht =>
      exact (negation_follows (primary_follows hgroup rest)).cons fun _ => .connective (by rw [ht]; rfl)
    · exact primary_follows hgroup (t :: rest)

omit hgroup in
theorem conjunctsFrom_silent (left : Query) {ts : List Token} (h : ts = []) :
    (conjunctsFrom stop group left ts).errors = [] := by
  rw [h, conjunctsFrom_nil]

omit hgroup in
theorem disjunctsFrom_silent (left : Query) {ts : List Token} (h : ts = []) :
    (disjunctsFrom stop group left ts).errors = [] := by
  rw [h, disjunctsFrom_nil]

theorem conjunctsFrom_follows (left : Query) (ts : List Token) :
    left.nesting ≤ room → (conjunctsFrom stop group left ts).Follows stop room ts left.tests := by
  fun_induction conjunctsFrom stop group left ts with
  | case1 left => exact fun hleft => .stay hleft []
  | case2 left t rest ht r right hright ih =>
    intro hleft
    have hread : r.Follows stop room rest [] := operand_follows hgroup rest
    have hnext := ih (Nat.max_le.mpr ⟨hleft, hread.nesting_le right hright⟩)
    have htests : (Query.and left right).tests = left.tests ++ testsOf r.query := by rw [hright]; rfl
    rw [htests] at hnext
    exact (hread.andThen hnext (conjunctsFrom_silent _)).cons fun _ => .connective (by rw [ht]; rfl)
  | case3 left t rest ht r hnone =>
    intro hleft
    have hread : r.Follows stop room rest [] := operand_follows hgroup rest
    exact (hread.missing hnone hleft rfl).cons fun _ => .connective (by rw [ht]; rfl)
  | case4 left t rest hand ht r ih =>
    intro hleft
    have hread : r.Follows stop room (t :: rest) [] := operand_follows hgroup (t :: rest)
    have hjoined : (andMaybe left r.query).nesting ≤ room := by
      cases hr : r.query with
      | none => exact hleft
      | some right => exact Nat.max_le.mpr ⟨hleft, hread.nesting_le right hr⟩
    have hnext := ih hjoined
    rw [tests_andMaybe] at hnext
    exact hread.andThen hnext (conjunctsFrom_silent _)
  | case5 left t rest => exact fun hleft => .stay hleft (t :: rest)

theorem conjunction_follows (ts : List Token) : (conjunction stop group ts).Follows stop room ts [] := by
  have hread := operand_follows hgroup ts
  unfold conjunction
  simp only
  split
  · next left hleft =>
    have hnext := conjunctsFrom_follows hgroup left (operand stop group ts).rest (hread.nesting_le left hleft)
    have htests : left.tests = [] ++ testsOf (operand stop group ts).query := by rw [hleft]; rfl
    rw [htests] at hnext
    exact hread.andThen hnext (conjunctsFrom_silent _)
  · exact hread

theorem disjunctsFrom_follows (left : Query) (ts : List Token) :
    left.nesting ≤ room → (disjunctsFrom stop group left ts).Follows stop room ts left.tests := by
  fun_induction disjunctsFrom stop group left ts with
  | case1 left => exact fun hleft => .stay hleft []
  | case2 left t rest ht r right hright ih =>
    intro hleft
    have hread : r.Follows stop room rest [] := conjunction_follows hgroup rest
    have hnext := ih (Nat.max_le.mpr ⟨hleft, hread.nesting_le right hright⟩)
    have htests : (Query.or left right).tests = left.tests ++ testsOf r.query := by rw [hright]; rfl
    rw [htests] at hnext
    exact (hread.andThen hnext (disjunctsFrom_silent _)).cons fun _ => .connective (by rw [ht]; rfl)
  | case3 left t rest ht r hnone =>
    intro hleft
    have hread : r.Follows stop room rest [] := conjunction_follows hgroup rest
    exact (hread.missing hnone hleft rfl).cons fun _ => .connective (by rw [ht]; rfl)
  | case4 left t rest => exact fun hleft => .stay hleft (t :: rest)

theorem disjunction_follows (ts : List Token) : (disjunction stop group ts).Follows stop room ts [] := by
  have hread := conjunction_follows hgroup ts
  unfold disjunction
  simp only
  split
  · next left hleft =>
    have hnext := disjunctsFrom_follows hgroup left (conjunction stop group ts).rest (hread.nesting_le left hleft)
    have htests : left.tests = [] ++ testsOf (conjunction stop group ts).query := by rw [hleft]; rfl
    rw [htests] at hnext
    exact hread.andThen hnext (disjunctsFrom_silent _)
  · exact hread

end Rules

/-! ## Parentheses -/

section Groups

variable {stop o : Token} {room : Nat} {ts : List Token} {qs : List Query} {r : Reading}

theorem closeGroup_query (r : Reading) : (closeGroup stop r).query = r.query.map .group := by
  unfold closeGroup
  split
  · rfl
  · split <;> rfl

theorem testsOf_map_group (q : Option Query) : testsOf (q.map .group) = testsOf q := by
  cases q <;> rfl

theorem Course.inside {c : Cursor} (h : Course stop (r.errors ≠ []) c qs r.errors ⟨room, r.rest⟩) :
    Course stop (insideErrors stop r ≠ []) c qs (insideErrors stop r) ⟨room, r.rest⟩ := by
  unfold insideErrors
  split
  · exact h.missing rfl
  · simpa using h

/-- A group is open from its parenthesis on, until it is ended or given up. -/
theorem closeGroup_runs (h : r.Runs stop room ts qs) (ho : o.kind = .openParen) :
    (closeGroup stop r).Runs stop (room + 1) (o :: ts) qs := by
  cases h with
  | whole h =>
    have hinside : Course stop (insideErrors stop r ≠ []) ⟨room + 1, o :: ts⟩ qs (insideErrors stop r) ⟨room, r.rest⟩ :=
      .cons (.opening ho) h.inside
    have hcut : r.isCut = false := by simpa [Reading.isCut] using h.not_tooDeep
    have herrors : unclosedErrors stop r = [.on .unclosedGroup (here stop r.rest)] := by simp [unclosedErrors, hcut]
    have hgivenUp : Course stop (insideErrors stop r ++ unclosedErrors stop r ≠ []) ⟨room + 1, o :: ts⟩ qs
        (insideErrors stop r ++ unclosedErrors stop r) ⟨room + 1, r.rest⟩ := by
      rw [herrors]
      exact (hinside.mono fun _ => by simp).concat .unclosed
    unfold closeGroup
    split
    · next hrest =>
      rw [hrest] at hgivenUp
      exact .whole hgivenUp
    · next c rest hrest =>
      rw [hrest] at hinside hgivenUp
      split
      · next hc => exact .whole (by simpa using hinside.concat (.closing hc))
      · exact .whole hgivenUp
  | @cut es t more h ht hrest he =>
    have hclose : closeGroup stop r = ⟨r.query.map .group, [], r.errors⟩ := by
      simp [closeGroup, hrest, insideErrors, unclosedErrors, Reading.isCut, unlessReported, he, SyntaxError.on]
    rw [hclose]
    exact .cut (.cons (.opening ho) h) ht rfl he

theorem closeGroup_follows (h : r.Follows stop room ts []) (ho : o.kind = .openParen) :
    (closeGroup stop r).Follows stop (room + 1) (o :: ts) [] := by
  refine ⟨⟨testsOf r.query, ?_, closeGroup_runs h.runs_tests ho⟩, fun q hq => ?_⟩
  · rw [closeGroup_query, testsOf_map_group]
    rfl
  · rw [closeGroup_query] at hq
    obtain ⟨inner, hinner, rfl⟩ := Option.map_eq_some_iff.mp hq
    exact Nat.succ_le_succ (h.nesting_le inner hinner)

theorem groupReader_follows (room : Nat) (o : Token) (ts : List Token) (ho : o.kind = .openParen) :
    ((groupReader stop room o).read ts).Follows stop room (o :: ts) [] := by
  induction room generalizing o ts with
  | zero => exact .of_none (.cut .done ho rfl rfl) rfl
  | succ room ih =>
    have hinside : ((expression stop room).read ts).Follows stop room ts [] := by
      rw [expression_read]
      exact disjunction_follows ih ts
    rw [groupReader_succ]
    unfold groupBody
    split
    · exact closeGroup_follows hinside ho
    · next t rest =>
      split
      · next ht =>
        have hreport : Course stop True ⟨room, t :: rest⟩ [] [.on .emptyGroup t] ⟨room, t :: rest⟩ :=
          .single (.report rfl)
        exact .of_error (.cons (.opening ho) (by simpa using hreport.concat (.closing ht)))
      · exact closeGroup_follows hinside ho

end Groups

end KanjiSearch.Parser

open KanjiSearch.Parser

namespace KanjiSearch

/-! ## Whole rows of tokens -/

/-- **Reading a row of tokens is a course over those before the end**, which takes all of them if there is no error. -/
theorem parseTokens_follows (ts : List Token) : ∃ rest,
    Reading.Follows (endToken ts) maxNesting (tokensBeforeEnd ts) []
      ⟨(parseTokens ts).query, rest, (parseTokens ts).errors⟩ ∧
    ((parseTokens ts).errors = [] → rest = []) := by
  rw [parseTokens_eq]
  unfold parseUpTo
  split
  · next hts =>
    rw [hts]
    exact ⟨[], .of_none (.whole .done) rfl, fun _ => rfl⟩
  · next t more hts =>
    have hread : ((expression (endToken ts) maxNesting).read (t :: more)).Follows (endToken ts) maxNesting
        (t :: more) [] := by
      rw [expression_read]
      exact disjunction_follows (groupReader_follows maxNesting) (t :: more)
    rw [hts]
    generalize (expression (endToken ts) maxNesting).read (t :: more) = r at hread ⊢
    obtain ⟨query, rest, errors⟩ := r
    simp only
    split
    · next next more =>
      have hmissing := hread.runs_tests.missing query (show (Fault.unexpected next).isOfGroups = false from rfl)
      refine ⟨next :: more, ⟨⟨testsOf query, rfl, hmissing⟩, hread.nesting_le⟩, fun he => ?_⟩
      exact absurd he (List.cons_ne_nil _ _)
    · next hleft =>
      refine ⟨rest, hread, fun he => ?_⟩
      cases rest with
      | nil => rfl
      | cons next more => exact absurd he (hleft next more rfl)

/-- The course over a row of tokens: a whole one, or one that was cut at a group too many. -/
theorem parseTokens_course (ts : List Token) :
    (∃ rest, Course (endToken ts) ((parseTokens ts).errors ≠ []) ⟨maxNesting, tokensBeforeEnd ts⟩
        (testsOf (parseTokens ts).query) (parseTokens ts).errors ⟨maxNesting, rest⟩ ∧
      ((parseTokens ts).errors = [] → rest = [])) ∨
    ∃ es o more, Course (endToken ts) True ⟨maxNesting, tokensBeforeEnd ts⟩ (testsOf (parseTokens ts).query) es
        ⟨0, o :: more⟩ ∧
      o.kind = .openParen ∧ (parseTokens ts).errors = es ++ [.on .nestedTooDeeply o] := by
  obtain ⟨rest, hfollows, hrest⟩ := parseTokens_follows ts
  cases hfollows.runs_tests with
  | whole h => exact .inl ⟨rest, h, hrest⟩
  | cut h ho _ he => exact .inr ⟨_, _, _, h, ho, he⟩

/-- The groups of a query never nest deeper than groups may. -/
theorem nesting_le_of_parseTokens {ts : List Token} {q : Query} (h : (parseTokens ts).query = some q) :
    q.nesting ≤ maxNesting := by
  obtain ⟨rest, hfollows, -⟩ := parseTokens_follows ts
  exact hfollows.nesting_le q h

end KanjiSearch
