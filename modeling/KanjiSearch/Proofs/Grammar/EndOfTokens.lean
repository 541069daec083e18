import KanjiSearch.Proofs.Grammar.Rules
import Mathlib.Data.List.TakeWhile

/-!
# The end of a row of tokens

No rule takes an end token, and none looks at what is behind it. So it makes no difference to a rule whether its tokens
run out in front of `stop` or `stop` stands behind them with any tokens after it: two such readings run side by side
(`Reading.InFront`), and only a group too many, which drops all that is left, makes them leave the same tokens.

* `expression_inFront`: a query in front of an end token, by induction on the room for groups.
* `parseTokens_append`, `parseTokens_of_no_end`: whole rows with an end token and without one.
* `parseTokens_eq`: a row reads as its tokens before the end (`tokensBeforeEnd`), with its end (`endToken`) behind them.
* `parseTokens_stops_at_end`: what is behind the end does not count, and a row without an end reads as if it had one.
-/

namespace KanjiSearch.Parser

/-! ## Readings in front of further tokens -/

/-- The reading `r` when `tail` is behind its tokens. -/
def Reading.before (tail : List Token) (r : Reading) : Reading :=
  ⟨r.query, r.rest ++ tail, r.errors⟩

/-- The same reading without and with `tail` behind its tokens: `tail` is left too, unless all that was left has been
dropped. -/
inductive Reading.InFront (tail : List Token) (r : Reading) : Reading → Prop
  | all : InFront tail r (r.before tail)
  | cut : r.rest = [] → r.isCut = true → InFront tail r r

variable {tail ts : List Token} {r s : Reading}

theorem inFront_of_eq (h : s = r.before tail) : r.InFront tail s :=
  h ▸ .all

theorem Reading.InFront.query (h : r.InFront tail s) : s.query = r.query := by
  cases h <;> rfl

theorem Reading.InFront.errors (h : r.InFront tail s) : s.errors = r.errors := by
  cases h <;> rfl

theorem Reading.InFront.isCut (h : r.InFront tail s) : s.isCut = r.isCut := by
  cases h <;> rfl

theorem isCut_iff : r.isCut = true ↔ ∃ e ∈ r.errors, e.fault = .nestedTooDeeply := by
  simp [Reading.isCut]

/-- A cut shows in every reading that has the errors of the one that was cut. -/
theorem isCut_of_subset (hcut : r.isCut = true) (hsub : r.errors ⊆ s.errors) : s.isCut = true := by
  obtain ⟨e, he, hfault⟩ := isCut_iff.mp hcut
  exact isCut_iff.mpr ⟨e, hsub he, hfault⟩

theorem Reading.InFront.after (es : List SyntaxError) (h : r.InFront tail s) :
    (r.after es).InFront tail (s.after es) := by
  cases h with
  | all => exact .all
  | cut hrest hcut => exact .cut hrest (isCut_of_subset hcut (List.subset_append_right _ _))

/-- Rules that go on where two readings ended, and do nothing where no token is left. -/
theorem Reading.InFront.andThen {go go' : List Token → Reading} (h : r.InFront tail s)
    (hgo : (go r.rest).InFront tail (go' (r.rest ++ tail))) (hsame : go' [] = go []) (hnil : (go []).rest = []) :
    ((go r.rest).after r.errors).InFront tail ((go' s.rest).after s.errors) := by
  cases h with
  | all => exact hgo.after _
  | cut hrest hcut =>
    rw [hrest, hsame]
    exact .cut hnil (isCut_of_subset hcut (List.subset_append_left _ _))

section Rules

variable {stop stop' : Token} {more : List Token} (hstop : stop.kind = .eof)

theorem here_append (ts : List Token) : here stop' (ts ++ stop :: more) = here stop ts := by
  cases ts <;> rfl

theorem Reading.InFront.unlessReported (h : r.InFront (stop :: more) s) (fault : Fault) :
    unlessReported stop' fault s = unlessReported stop fault r := by
  cases h with
  | all => simp only [Parser.unlessReported, Reading.before, here_append]
  | cut _ hcut =>
    obtain ⟨e, he, -⟩ := isCut_iff.mp hcut
    have hsome : r.errors.isEmpty = false := List.isEmpty_eq_false_iff.mpr (List.ne_nil_of_mem he)
    simp only [Parser.unlessReported, hsome]
    rfl

/-- Rules that ended without what they need. -/
theorem Reading.InFront.missing (h : r.InFront (stop :: more) s) (q : Option Query) (fault : Fault) :
    Reading.InFront (stop :: more) ⟨q, r.rest, r.errors ++ Parser.unlessReported stop fault r⟩
      ⟨q, s.rest, s.errors ++ Parser.unlessReported stop' fault s⟩ := by
  rw [h.unlessReported]
  cases h with
  | all => exact .all
  | cut hrest hcut => exact .cut hrest (isCut_of_subset hcut (List.subset_append_left _ _))

/-! ## Values of fields -/

theorem withNumber_before (t : Token) (digits : List Char) {use use' : UInt64 → Reading}
    (huse : ∀ n, use' n = (use n).before tail) :
    withNumber t digits (ts ++ tail) use' = (withNumber t digits ts use).before tail := by
  unfold withNumber
  split
  · exact huse _
  · rfl

theorem rangeValue_before (f : Field) (t : Token) :
    rangeValue f t (ts ++ tail) = (rangeValue f t ts).before tail := by
  unfold rangeValue
  split
  · rfl
  · exact withNumber_before t _ fun _ => withNumber_before t _ fun _ => rfl

include hstop

theorem textValue_before (f : Field) (spelling : String) (ts : List Token) :
    textValue stop' f spelling (ts ++ stop :: more) = (textValue stop f spelling ts).before (stop :: more) := by
  cases ts with
  | nil => simp only [List.nil_append, textValue, hstop, Reading.before]
  | cons t rest =>
    simp only [List.cons_append, textValue]
    split <;> rfl

theorem comparedFrequency_before (op : Comparison) (ts : List Token) :
    comparedFrequency stop' op (ts ++ stop :: more) = (comparedFrequency stop op ts).before (stop :: more) := by
  cases ts with
  | nil => simp only [List.nil_append, comparedFrequency, hstop, Reading.before]
  | cons t rest =>
    simp only [List.cons_append, comparedFrequency]
    split
    · exact withNumber_before t _ fun _ => rfl
    · rfl

theorem comparedLevel_before (op : Comparison) (ts : List Token) :
    comparedLevel stop' op (ts ++ stop :: more) = (comparedLevel stop op ts).before (stop :: more) := by
  cases ts with
  | nil => simp only [List.nil_append, comparedLevel, hstop, Reading.before]
  | cons t rest =>
    simp only [List.cons_append, comparedLevel]
    split
    · split <;> rfl
    · rfl

theorem fieldValue_before (f : Field) (spelling : String) (ts : List Token) :
    fieldValue stop' f spelling (ts ++ stop :: more) = (fieldValue stop f spelling ts).before (stop :: more) := by
  have htext : textValue stop' f spelling (ts ++ stop :: more) = (textValue stop f spelling ts).before (stop :: more) :=
    textValue_before hstop f spelling ts
  cases ts with
  | nil =>
    rw [List.nil_append] at htext ⊢
    cases f <;> simpa only [fieldValue, hstop, comparison?] using htext
  | cons t rest =>
    simp only [List.cons_append, fieldValue] at htext ⊢
    split
    · exact comparedFrequency_before hstop _ rest
    · exact comparedLevel_before hstop _ rest
    · split
      · exact rangeValue_before _ t
      · exact withNumber_before t _ fun _ => rfl
      · exact htext
    · exact htext

theorem skipValue_append (ts : List Token) : skipValue (ts ++ stop :: more) = skipValue ts ++ stop :: more := by
  cases ts with
  | nil => simp [skipValue, hstop, isValue]
  | cons t rest =>
    simp only [List.cons_append, skipValue]
    split <;> rfl

/-! ## Operands and their rows -/

variable {group group' : Token → Reader}
  (hgroup : ∀ t ts, ((group t).read ts).InFront (stop :: more) ((group' t).read (ts ++ stop :: more)))
include hgroup

theorem primary_inFront (ts : List Token) :
    (primary stop group ts).InFront (stop :: more) (primary stop' group' (ts ++ stop :: more)) := by
  cases ts with
  | nil => exact inFront_of_eq (by simp only [List.nil_append, primary, hstop, Reading.before])
  | cons t rest =>
    simp only [List.cons_append, primary]
    split
    · exact hgroup t rest
    · exact inFront_of_eq (fieldValue_before hstop _ _ rest)
    · exact inFront_of_eq (by rw [skipValue_append hstop]; rfl)
    all_goals exact .all

omit hstop hgroup in
theorem negation_inFront (h : r.InFront (stop :: more) s) :
    (negation stop r).InFront (stop :: more) (negation stop' s) := by
  unfold negation
  rw [h.query]
  split
  · cases h with
    | all => exact .all
    | cut hrest hcut => exact .cut hrest hcut
  · exact h.missing none _

theorem operand_inFront (ts : List Token) :
    (operand stop group ts).InFront (stop :: more) (operand stop' group' (ts ++ stop :: more)) := by
  have hprimary : ∀ ts, (primary stop group ts).InFront (stop :: more) (primary stop' group' (ts ++ stop :: more)) :=
    primary_inFront hstop hgroup
  cases ts with
  | nil =>
    have hnot : stop.kind ≠ .not := by simp [hstop]
    simp only [List.nil_append, operand, if_neg hnot]
    exact hprimary []
  | cons t rest =>
    simp only [List.cons_append, operand]
    split
    · exact negation_inFront (hprimary rest)
    · exact hprimary (t :: rest)

theorem conjunctsFrom_inFront (left : Query) (ts : List Token) : (conjunctsFrom stop group left ts).InFront
    (stop :: more) (conjunctsFrom stop' group' left (ts ++ stop :: more)) := by
  have hread : ∀ ts, (operand stop group ts).InFront (stop :: more) (operand stop' group' (ts ++ stop :: more)) :=
    operand_inFront hstop hgroup
  fun_induction conjunctsFrom stop group left ts with
  | case1 left =>
    have hends : Stops (stop :: more) := fun t ht => by cases ht; simp [hstop, startsOperand]
    exact inFront_of_eq (conjunctsFrom_of_stops group' hends left)
  | case2 left t rest ht r right hright ih =>
    have hq := (hread rest).query.trans hright
    rw [List.cons_append, conjunctsFrom_and_some group' ht rfl hq]
    exact (hread rest).andThen ih (by simp) (by simp)
  | case3 left t rest ht r hnone =>
    have hq := (hread rest).query.trans hnone
    rw [List.cons_append, conjunctsFrom_and_none group' ht rfl hq]
    exact (hread rest).missing (some left) _
  | case4 left t rest hand ht r ih =>
    rw [List.cons_append, conjunctsFrom_operand group' ht rfl, ← List.cons_append, (hread (t :: rest)).query]
    exact (hread (t :: rest)).andThen ih (by rw [conjunctsFrom_nil, conjunctsFrom_nil]) (by simp)
  | case5 left t rest hand ht =>
    rw [List.cons_append, conjunctsFrom, if_neg hand, dif_neg ht]
    exact .all

theorem conjunction_inFront (ts : List Token) :
    (conjunction stop group ts).InFront (stop :: more) (conjunction stop' group' (ts ++ stop :: more)) := by
  have hread : (operand stop group ts).InFront (stop :: more) (operand stop' group' (ts ++ stop :: more)) :=
    operand_inFront hstop hgroup ts
  simp only [conjunction, hread.query]
  split
  · exact hread.andThen (conjunctsFrom_inFront hstop hgroup _ _) (by simp) (by simp)
  · exact hread

theorem disjunctsFrom_inFront (left : Query) (ts : List Token) : (disjunctsFrom stop group left ts).InFront
    (stop :: more) (disjunctsFrom stop' group' left (ts ++ stop :: more)) := by
  have hread : ∀ ts, (conjunction stop group ts).InFront (stop :: more)
      (conjunction stop' group' (ts ++ stop :: more)) := conjunction_inFront hstop hgroup
  fun_induction disjunctsFrom stop group left ts with
  | case1 left =>
    have hends : ∀ t, (stop :: more).head? = some t → t.kind ≠ .or := fun t ht => by cases ht; simp [hstop]
    exact inFront_of_eq (disjunctsFrom_of_ne_or group' hends left)
  | case2 left t rest ht r right hright ih =>
    have hq := (hread rest).query.trans hright
    rw [List.cons_append, disjunctsFrom_or_some group' ht rfl hq]
    exact (hread rest).andThen ih (by simp) (by simp)
  | case3 left t rest ht r hnone =>
    have hq := (hread rest).query.trans hnone
    rw [List.cons_append, disjunctsFrom_or_none group' ht rfl hq]
    exact (hread rest).missing (some left) _
  | case4 left t rest ht =>
    rw [List.cons_append, disjunctsFrom, if_neg ht]
    exact .all

theorem disjunction_inFront (ts : List Token) :
    (disjunction stop group ts).InFront (stop :: more) (disjunction stop' group' (ts ++ stop :: more)) := by
  have hread : (conjunction stop group ts).InFront (stop :: more) (conjunction stop' group' (ts ++ stop :: more)) :=
    conjunction_inFront hstop hgroup ts
  simp only [disjunction, hread.query]
  split
  · exact hread.andThen (disjunctsFrom_inFront hstop hgroup _ _) (by simp) (by simp)
  · exact hread

omit hgroup

/-! ## Parentheses -/

omit hstop in
theorem insideErrors_inFront (h : r.InFront (stop :: more) s) : insideErrors stop' s = insideErrors stop r := by
  simp only [insideErrors, h.errors, h.query, h.unlessReported]

theorem closeGroup_inFront (h : r.InFront (stop :: more) s) :
    (closeGroup stop r).InFront (stop :: more) (closeGroup stop' s) := by
  have hinside : insideErrors stop' s = insideErrors stop r := insideErrors_inFront h
  cases h with
  | all =>
    have hclose : stop.kind ≠ .closeParen := by simp [hstop]
    have hunclosed : unclosedErrors stop' (r.before (stop :: more)) = unclosedErrors stop r := by
      have hhere : here stop' (r.before (stop :: more)).rest = here stop r.rest := here_append r.rest
      unfold unclosedErrors
      rw [hhere]
      rfl
    apply inFront_of_eq
    simp only [closeGroup, hinside, hunclosed]
    simp only [Reading.before]
    cases r.rest with
    | nil => simp [hclose]
    | cons t rest =>
      simp only [List.cons_append]
      split <;> rfl
  | cut hrest hcut =>
    have hsame : closeGroup stop' r = closeGroup stop r := by
      simp only [closeGroup, hrest, hinside, unclosedErrors, hcut, if_true]
    rw [hsame]
    refine .cut (by simp [closeGroup, hrest]) (isCut_of_subset hcut ?_)
    simp [closeGroup, hrest, insideErrors]

theorem groupBody_inFront {inside inside' : Reader}
    (hinside : ∀ ts, (inside.read ts).InFront (stop :: more) (inside'.read (ts ++ stop :: more))) (ts : List Token) :
    (groupBody stop inside ts).InFront (stop :: more) (groupBody stop' inside' (ts ++ stop :: more)) := by
  have hclosed : (closeGroup stop (inside.read ts)).InFront (stop :: more)
      (closeGroup stop' (inside'.read (ts ++ stop :: more))) := closeGroup_inFront hstop (hinside ts)
  cases ts with
  | nil =>
    have hclose : stop.kind ≠ .closeParen := by simp [hstop]
    simpa only [List.nil_append, groupBody, if_neg hclose] using hclosed
  | cons t rest =>
    simp only [List.cons_append, groupBody]
    split
    · exact .all
    · exact hclosed

theorem groupReader_inFront (room : Nat) (t : Token) (ts : List Token) :
    ((groupReader stop room t).read ts).InFront (stop :: more)
      ((groupReader stop' room t).read (ts ++ stop :: more)) := by
  induction room generalizing t ts with
  | zero => exact .cut rfl rfl
  | succ room ih =>
    rw [groupReader_succ, groupReader_succ]
    refine groupBody_inFront hstop (fun ts => ?_) ts
    rw [expression_read, expression_read]
    exact disjunction_inFront hstop ih ts

/-- **A query reads alike in front of an end token**, whatever is behind it, and where its tokens run out. -/
theorem expression_inFront (room : Nat) (ts : List Token) :
    ((expression stop room).read ts).InFront (stop :: more) ((expression stop' room).read (ts ++ stop :: more)) := by
  rw [expression_read, expression_read]
  exact disjunction_inFront hstop (groupReader_inFront hstop room) ts

end Rules

end KanjiSearch.Parser

open KanjiSearch.Parser

namespace KanjiSearch

/-! ## Whole rows -/

/-- The end of a row of tokens: its first end token, or one at the place of the last token. -/
def endToken (ts : List Token) : Token :=
  match ts.find? (·.kind == .eof) with
  | some t => t
  | none => standIn ts

/-- The tokens before the end. -/
def tokensBeforeEnd (ts : List Token) : List Token :=
  ts.takeWhile (·.kind != .eof)

/-- The query that the tokens `ts` spell when all of them count and they run out in front of `stop`. -/
def parseUpTo (stop : Token) (ts : List Token) : Parse :=
  match ts with
  | [] => ⟨none, []⟩
  | t :: rest =>
    let r := (Parser.expression stop Parser.maxNesting).read (t :: rest)
    match r.rest, r.errors with
    | next :: _, [] => ⟨r.query, [.on (.unexpected next) next]⟩
    | _, errors => ⟨r.query, errors⟩

section Rows

variable {before after ts : List Token} {stop e : Token}

/-- Readings that run side by side come to the same. -/
theorem ofReading_inFront {more : List Token} {r s : Reading} (h : r.InFront (e :: more) s) :
    Parse.ofReading stop s = Parse.ofReading e r := by
  cases h with
  | all => simp only [Parse.ofReading, Reading.before, here_append]
  | cut _ hcut =>
    obtain ⟨error, he, -⟩ := isCut_iff.mp hcut
    have hsome : r.errors ≠ [] := List.ne_nil_of_mem he
    simp only [Parse.ofReading, hsome, and_false, if_false]

theorem parseUpTo_eq (hstop : stop.kind = .eof) (hts : ∀ t ∈ ts, t.kind ≠ .eof) : parseUpTo stop ts =
    if (here stop ts).kind = .eof then ⟨none, []⟩ else .ofReading stop ((expression stop maxNesting).read ts) := by
  cases ts with
  | nil => exact (if_pos hstop).symm
  | cons t rest =>
    have ht : (here stop (t :: rest)).kind ≠ .eof := hts t List.mem_cons_self
    have hrest : ∀ u ∈ ((expression stop maxNesting).read (t :: rest)).rest, u.kind ≠ .eof :=
      fun u hu => hts u (((expression stop maxNesting).suffix (t :: rest)).mem hu)
    rw [if_neg ht]
    unfold parseUpTo
    dsimp only
    generalize (expression stop maxNesting).read (t :: rest) = r at hrest ⊢
    obtain ⟨query, left, errors⟩ := r
    cases left with
    | nil => simp [Parse.ofReading, here, hstop]
    | cons next more =>
      have hnext : next.kind ≠ .eof := hrest next List.mem_cons_self
      cases errors <;> simp [Parse.ofReading, here, hnext]

/-- A row with an end token reads as the tokens before it. -/
theorem parseTokens_append (hbefore : ∀ t ∈ before, t.kind ≠ .eof) (he : e.kind = .eof) (after : List Token) :
    parseTokens (before ++ e :: after) = parseUpTo e before := by
  rw [parseUpTo_eq he hbefore, parseTokens]
  simp only [here_append, ofReading_inFront (expression_inFront he maxNesting before)]

/-- A row without an end token reads to its end. -/
theorem parseTokens_of_no_end (hts : ∀ t ∈ ts, t.kind ≠ .eof) : parseTokens ts = parseUpTo (standIn ts) ts :=
  (parseUpTo_eq rfl hts).symm

theorem exists_end (ts : List Token) :
    (∃ before e after, ts = before ++ e :: after ∧ e.kind = .eof ∧ ∀ t ∈ before, t.kind ≠ .eof) ∨
      ∀ t ∈ ts, t.kind ≠ .eof := by
  induction ts with
  | nil => exact .inr fun t ht => absurd ht List.not_mem_nil
  | cons t ts ih =>
    by_cases ht : t.kind = .eof
    · exact .inl ⟨[], t, ts, rfl, ht, fun u hu => absurd hu List.not_mem_nil⟩
    · rcases ih with ⟨before, e, after, rfl, he, hbefore⟩ | hts
      · exact .inl ⟨t :: before, e, after, rfl, he, List.forall_mem_cons.mpr ⟨ht, hbefore⟩⟩
      · exact .inr (List.forall_mem_cons.mpr ⟨ht, hts⟩)

theorem tokensBeforeEnd_append (hbefore : ∀ t ∈ before, t.kind ≠ .eof) (he : e.kind = .eof) :
    tokensBeforeEnd (before ++ e :: after) = before := by
  rw [tokensBeforeEnd, List.takeWhile_append_of_pos (by simpa using hbefore)]
  simp [he]

theorem endToken_append (hbefore : ∀ t ∈ before, t.kind ≠ .eof) (he : e.kind = .eof) :
    endToken (before ++ e :: after) = e := by
  have hnone : before.find? (·.kind == .eof) = none := by simpa using hbefore
  simp [endToken, List.find?_append, hnone, he]

theorem tokensBeforeEnd_of_no_end (hts : ∀ t ∈ ts, t.kind ≠ .eof) : tokensBeforeEnd ts = ts :=
  List.takeWhile_eq_self_iff.mpr (by simpa using hts)

theorem endToken_of_no_end (hts : ∀ t ∈ ts, t.kind ≠ .eof) : endToken ts = standIn ts := by
  have hnone : ts.find? (·.kind == .eof) = none := by simpa using hts
  rw [endToken, hnone]

end Rows

/-- **A row of tokens reads as its tokens before the end**, with the end behind them. -/
theorem parseTokens_eq (ts : List Token) : parseTokens ts = parseUpTo (endToken ts) (tokensBeforeEnd ts) := by
  rcases exists_end ts with ⟨before, e, after, rfl, he, hbefore⟩ | hts
  · rw [parseTokens_append hbefore he, endToken_append hbefore he, tokensBeforeEnd_append hbefore he]
  · rw [parseTokens_of_no_end hts, endToken_of_no_end hts, tokensBeforeEnd_of_no_end hts]

/-- **Every row of tokens ends in the same way**: with its first end token, or as if an empty one stood at its last
token. -/
theorem parseTokens_stops_at_end :
    (∀ (before after : List Token) (e : Token), (∀ t ∈ before, t.kind ≠ .eof) → e.kind = .eof →
      parseTokens (before ++ e :: after) = parseTokens (before ++ [e])) ∧
    (∀ ts : List Token, (∀ t ∈ ts, t.kind ≠ .eof) →
      parseTokens ts = parseTokens (ts ++ [⟨.eof, "", (ts.getLast?.map (·.position)).getD 0⟩])) := by
  refine ⟨fun before after e hbefore he => ?_, fun ts hts => ?_⟩
  · calc parseTokens (before ++ e :: after)
        = parseUpTo e before := parseTokens_append hbefore he after
      _ = parseTokens (before ++ [e]) := (parseTokens_append hbefore he []).symm
  · calc parseTokens ts
        = parseUpTo (standIn ts) ts := parseTokens_of_no_end hts
      _ = parseTokens (ts ++ [standIn ts]) := (parseTokens_append hts rfl []).symm

/-- More groups than may nest, with a token behind the end, and a group without an end. -/
theorem parseTokens_stops_at_end_groups :
    parseTokens (List.replicate 101 ⟨.openParen, "(", 0⟩ ++ ⟨.eof, "", 7⟩ :: [⟨.closeParen, ")", 8⟩]) =
      parseTokens (List.replicate 101 ⟨.openParen, "(", 0⟩ ++ [⟨.eof, "", 7⟩]) ∧
    parseTokens [⟨.openParen, "(", 0⟩, ⟨.text, "fire", 3⟩] =
      parseTokens [⟨.openParen, "(", 0⟩, ⟨.text, "fire", 3⟩, ⟨.eof, "", 3⟩] := by
  have hgroups : ∀ t ∈ List.replicate 101 (⟨.openParen, "(", 0⟩ : Token), t.kind ≠ .eof := fun t ht => by
    rw [List.eq_of_mem_replicate ht]
    decide
  exact ⟨parseTokens_stops_at_end.1 _ _ _ hgroups rfl, parseTokens_stops_at_end.2 _ (by decide)⟩

end KanjiSearch
