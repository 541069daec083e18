import KanjiSearch.Proofs.Grammar.Completeness
import KanjiSearch.Proofs.Lexer.Blanks
import Mathlib.Data.List.Forall2

/-!
# Queries that read alike

Reading decides by the kinds of tokens, and only by the values of texts, quotations, numbers and ranges
(`Token.Alike`). Two readings run side by side here. Their tokens stand in a relation `R` that holds of tokens alike
only, and every rule keeps this: it makes the same query of both rows, leaves rows in the relation, and finds errors of
the same sort at tokens in the relation (`Reading.Alike`).

* `operand_alike`, `disjunction_alike`: the rules, given this of what follows an opening parenthesis.
* `groupReader_alike`: what follows an opening parenthesis, by induction on the room for groups.
* `parseTokens_related`: whole rows of tokens.
* `parse_alike`: rows of tokens alike make the same query and have their errors at the same places, and so blanks
  between two texts may be replaced by other blanks, if the first has no unclosed quote: the query and the messages stay
  the same.
-/

namespace KanjiSearch

open Lexer (NoError)

/-! ## Likeness -/

/-- Tokens that reading does not tell apart. -/
structure Token.Alike (t u : Token) : Prop where
  kind : t.kind = u.kind
  value : Parser.isValue t.kind = true → t.value = u.value

/-- Faults of the same sort. What they name comes from tokens in the relation `R`. -/
inductive Fault.Alike (R : Token → Token → Prop) : Fault → Fault → Prop
  | same (fault) : Fault.Alike R fault fault
  | stated {t u} : R t u → Fault.Alike R (.stated t.value) (.stated u.value)
  | unexpected {t u} : R t u → Fault.Alike R (.unexpected t) (.unexpected u)
  | unknownField {t u} : R t u → Fault.Alike R (.unknownField t.value) (.unknownField u.value)
  | missingValue {t u} : R t u → Fault.Alike R (.missingValue t.value) (.missingValue u.value)

/-- Errors of the same sort at tokens in the relation `R`. -/
inductive SyntaxError.Alike (R : Token → Token → Prop) : SyntaxError → SyntaxError → Prop
  | on {f g t u} : Fault.Alike R f g → R t u → SyntaxError.Alike R (.on f t) (.on g u)

/-- Rows of errors of the same sorts. -/
abbrev ErrorsAlike (R : Token → Token → Prop) : List SyntaxError → List SyntaxError → Prop :=
  List.Forall₂ (SyntaxError.Alike R)

/-- Readings that made the same query and left rows in the relation `R`. -/
structure Parser.Reading.Alike (R : Token → Token → Prop) (r s : Reading) : Prop where
  query : r.query = s.query
  rest : List.Forall₂ R r.rest s.rest
  errors : ErrorsAlike R r.errors s.errors

namespace Parser

variable {R : Token → Token → Prop} {stop stop' t u : Token} {ts us : List Token} {r s : Reading}

theorem alike_query (q : Query) (h : List.Forall₂ R ts us) : Reading.Alike R ⟨some q, ts, []⟩ ⟨some q, us, []⟩ :=
  ⟨rfl, h, .nil⟩

theorem alike_error {f g : Fault} (hf : f.Alike R g) (htu : R t u) (h : List.Forall₂ R ts us) :
    Reading.Alike R ⟨none, ts, [.on f t]⟩ ⟨none, us, [.on g u]⟩ :=
  ⟨rfl, h, .cons (.on hf htu) .nil⟩

theorem Reading.Alike.after {es fs : List SyntaxError} (h : r.Alike R s) (he : ErrorsAlike R es fs) :
    (r.after es).Alike R (s.after fs) :=
  ⟨h.query, h.rest, List.rel_append he h.errors⟩

theorem here_alike (hstop : R stop stop') (h : List.Forall₂ R ts us) : R (here stop ts) (here stop' us) := by
  cases h with
  | nil => exact hstop
  | cons htu _ => exact htu

theorem Reading.Alike.unlessReported (h : r.Alike R s) (hstop : R stop stop') (fault : Fault) :
    ErrorsAlike R (unlessReported stop fault r) (unlessReported stop' fault s) := by
  have herrors := h.errors
  unfold Parser.unlessReported
  generalize r.errors = es, s.errors = fs at herrors
  cases herrors with
  | nil => exact .cons (.on (.same fault) (here_alike hstop h.rest)) .nil
  | cons => exact .nil

/-- A rule that ended without what it needs. -/
theorem Reading.Alike.missing (h : r.Alike R s) (hstop : R stop stop') (q : Option Query) (fault : Fault) :
    Reading.Alike R ⟨q, r.rest, r.errors ++ Parser.unlessReported stop fault r⟩
      ⟨q, s.rest, s.errors ++ Parser.unlessReported stop' fault s⟩ :=
  ⟨rfl, h.rest, List.rel_append h.errors (h.unlessReported hstop fault)⟩

/-- Whether the rest was dropped shows in both readings. -/
theorem Reading.Alike.isCut (h : r.Alike R s) : r.isCut = s.isCut := by
  have hone : ∀ e f, SyntaxError.Alike R e f → (e.fault == .nestedTooDeeply) = (f.fault == .nestedTooDeeply) := by
    rintro _ _ ⟨hf, -⟩
    cases hf <;> rfl
  have herrors := h.errors
  unfold Reading.isCut
  generalize r.errors = es, s.errors = fs at herrors
  induction herrors with
  | nil => rfl
  | cons hef _ ih => rw [List.any_cons, List.any_cons, hone _ _ hef, ih]

section Rules

variable (hR : ∀ t u, R t u → t.Alike u) (hstop : R stop stop')

/-! ## Values of fields -/

theorem withNumber_alike (htu : R t u) (digits : List Char) (h : List.Forall₂ R ts us) {use use' : UInt64 → Reading}
    (huse : ∀ n, (use n).Alike R (use' n)) :
    (withNumber t digits ts use).Alike R (withNumber u digits us use') := by
  unfold withNumber
  split
  · exact huse _
  · exact alike_error (.same _) htu h

include hR

theorem kind_eq (htu : R t u) : t.kind = u.kind :=
  (hR t u htu).kind

theorem value_eq (htu : R t u) {kind : TokenKind} (ht : t.kind = kind) (hkind : isValue kind = true := by rfl) :
    t.value = u.value :=
  (hR t u htu).value (ht ▸ hkind)

theorem rangeValue_alike (f : Field) (htu : R t u) (ht : t.kind = .range) (h : List.Forall₂ R ts us) :
    (rangeValue f t ts).Alike R (rangeValue f u us) := by
  unfold rangeValue
  rw [← value_eq hR htu ht]
  split
  · exact ⟨rfl, h, .nil⟩
  · exact withNumber_alike htu _ h fun _ => withNumber_alike htu _ h fun _ => alike_query _ h

include hstop

theorem textValue_alike (f : Field) {name name' : Token} (hname : R name name') (h : List.Forall₂ R ts us) :
    (textValue stop f name.value ts).Alike R (textValue stop' f name'.value us) := by
  cases h with
  | nil => exact alike_error (.missingValue hname) hstop .nil
  | cons htu h =>
    simp only [textValue, ← kind_eq hR htu]
    split
    · next ht => exact value_eq hR htu ht ▸ alike_query _ h
    · next ht => exact value_eq hR htu ht ▸ alike_query _ h
    · exact alike_error (.missingValue hname) htu (.cons htu h)

theorem comparedFrequency_alike (op : Comparison) (h : List.Forall₂ R ts us) :
    (comparedFrequency stop op ts).Alike R (comparedFrequency stop' op us) := by
  cases h with
  | nil => exact alike_error (.same _) hstop .nil
  | cons htu h =>
    simp only [comparedFrequency, ← kind_eq hR htu]
    split
    · next ht => exact value_eq hR htu ht ▸ withNumber_alike htu _ h fun _ => alike_query _ h
    · exact alike_error (.same _) htu (.cons htu h)

theorem comparedLevel_alike (op : Comparison) (h : List.Forall₂ R ts us) :
    (comparedLevel stop op ts).Alike R (comparedLevel stop' op us) := by
  cases h with
  | nil => exact alike_error (.same _) hstop .nil
  | cons htu h =>
    simp only [comparedLevel, ← kind_eq hR htu]
    split
    · next ht =>
      rw [← value_eq hR htu ht]
      split
      · exact alike_query _ h
      · exact alike_error (.same _) htu h
    · exact alike_error (.same _) htu (.cons htu h)

theorem fieldValue_alike (f : Field) {name name' : Token} (hname : R name name') (h : List.Forall₂ R ts us) :
    (fieldValue stop f name.value ts).Alike R (fieldValue stop' f name'.value us) := by
  have htext := textValue_alike hR hstop f hname h
  cases h with
  | nil => exact htext
  | cons htu h =>
    simp only [fieldValue, ← kind_eq hR htu]
    split
    · exact comparedFrequency_alike hR hstop _ h
    · exact comparedLevel_alike hR hstop _ h
    · split
      · next ht => exact rangeValue_alike hR _ htu ht h
      · next ht => exact value_eq hR htu ht ▸ withNumber_alike htu _ h fun _ => alike_query _ h
      · exact htext
    · exact htext

/-! ## Operands and their rows -/

variable {group group' : Token → Reader}
  (hgroup : ∀ t u ts us, R t u → List.Forall₂ R ts us → ((group t).read ts).Alike R ((group' u).read us))

omit hstop in
theorem skipValue_alike (h : List.Forall₂ R ts us) : List.Forall₂ R (skipValue ts) (skipValue us) := by
  cases h with
  | nil => exact .nil
  | cons htu h =>
    simp only [skipValue, ← kind_eq hR htu]
    split
    · exact h
    · exact .cons htu h

include hgroup

theorem primary_alike (h : List.Forall₂ R ts us) : (primary stop group ts).Alike R (primary stop' group' us) := by
  cases h with
  | nil => exact ⟨rfl, .nil, .nil⟩
  | cons htu h =>
    simp only [primary, ← kind_eq hR htu]
    split
    · exact hgroup _ _ _ _ htu h
    · exact fieldValue_alike hR hstop _ htu h
    · exact alike_error (.unknownField htu) htu (skipValue_alike hR h)
    · next ht => exact value_eq hR htu ht ▸ alike_query _ h
    · next ht => exact value_eq hR htu ht ▸ alike_query _ h
    · exact alike_error (.stated htu) htu h
    · exact ⟨rfl, .cons htu h, .nil⟩

omit hR hgroup in
theorem negation_alike (h : r.Alike R s) : (negation stop r).Alike R (negation stop' s) := by
  unfold negation
  rw [← h.query]
  split
  · exact ⟨rfl, h.rest, h.errors⟩
  · exact h.missing hstop none _

theorem operand_alike (h : List.Forall₂ R ts us) : (operand stop group ts).Alike R (operand stop' group' us) := by
  have hprimary := primary_alike hR hstop hgroup h
  cases h with
  | nil => exact hprimary
  | cons htu h =>
    simp only [operand, ← kind_eq hR htu]
    split
    · exact negation_alike hstop (primary_alike hR hstop hgroup h)
    · exact hprimary

theorem conjunctsFrom_alike (left : Query) (ts : List Token) : ∀ us, List.Forall₂ R ts us →
    (conjunctsFrom stop group left ts).Alike R (conjunctsFrom stop' group' left us) := by
  fun_induction conjunctsFrom stop group left ts with
  | case1 left =>
    rintro _ ⟨⟩
    rw [conjunctsFrom_nil]
    exact alike_query left .nil
  | case2 left t rest ht r right hright ih =>
    rintro _ (_ | @⟨_, u, _, us, htu, h⟩)
    have hread : r.Alike R (operand stop' group' us) := operand_alike hR hstop hgroup h
    rw [conjunctsFrom_and_some group' (kind_eq hR htu ▸ ht) rfl (hread.query ▸ hright)]
    exact (ih _ hread.rest).after hread.errors
  | case3 left t rest ht r hnone =>
    rintro _ (_ | @⟨_, u, _, us, htu, h⟩)
    have hread : r.Alike R (operand stop' group' us) := operand_alike hR hstop hgroup h
    rw [conjunctsFrom_and_none group' (kind_eq hR htu ▸ ht) rfl (hread.query ▸ hnone)]
    exact hread.missing hstop (some left) _
  | case4 left t rest hand ht r ih =>
    rintro _ (_ | @⟨_, u, _, us, htu, h⟩)
    have hread : r.Alike R (operand stop' group' (u :: us)) := operand_alike hR hstop hgroup (.cons htu h)
    rw [conjunctsFrom_operand group' (kind_eq hR htu ▸ ht) rfl, ← hread.query]
    exact (ih _ hread.rest).after hread.errors
  | case5 left t rest hand ht =>
    rintro _ (_ | @⟨_, u, _, us, htu, h⟩)
    rw [kind_eq hR htu] at hand ht
    rw [conjunctsFrom, if_neg hand, dif_neg ht]
    exact alike_query left (.cons htu h)

theorem conjunction_alike (h : List.Forall₂ R ts us) :
    (conjunction stop group ts).Alike R (conjunction stop' group' us) := by
  have hread := operand_alike hR hstop hgroup h
  simp only [conjunction, ← hread.query]
  split
  · exact (conjunctsFrom_alike hR hstop hgroup _ _ _ hread.rest).after hread.errors
  · exact hread

theorem disjunctsFrom_alike (left : Query) (ts : List Token) : ∀ us, List.Forall₂ R ts us →
    (disjunctsFrom stop group left ts).Alike R (disjunctsFrom stop' group' left us) := by
  fun_induction disjunctsFrom stop group left ts with
  | case1 left =>
    rintro _ ⟨⟩
    rw [disjunctsFrom_nil]
    exact alike_query left .nil
  | case2 left t rest ht r right hright ih =>
    rintro _ (_ | @⟨_, u, _, us, htu, h⟩)
    have hread : r.Alike R (conjunction stop' group' us) := conjunction_alike hR hstop hgroup h
    rw [disjunctsFrom_or_some group' (kind_eq hR htu ▸ ht) rfl (hread.query ▸ hright)]
    exact (ih _ hread.rest).after hread.errors
  | case3 left t rest ht r hnone =>
    rintro _ (_ | @⟨_, u, _, us, htu, h⟩)
    have hread : r.Alike R (conjunction stop' group' us) := conjunction_alike hR hstop hgroup h
    rw [disjunctsFrom_or_none group' (kind_eq hR htu ▸ ht) rfl (hread.query ▸ hnone)]
    exact hread.missing hstop (some left) _
  | case4 left t rest ht =>
    rintro _ (_ | @⟨_, u, _, us, htu, h⟩)
    rw [kind_eq hR htu] at ht
    rw [disjunctsFrom, if_neg ht]
    exact alike_query left (.cons htu h)

theorem disjunction_alike (h : List.Forall₂ R ts us) :
    (disjunction stop group ts).Alike R (disjunction stop' group' us) := by
  have hread := conjunction_alike hR hstop hgroup h
  simp only [disjunction, ← hread.query]
  split
  · exact (disjunctsFrom_alike hR hstop hgroup _ _ _ hread.rest).after hread.errors
  · exact hread

omit hgroup

/-! ## Parentheses -/

omit hR in
theorem insideErrors_alike (h : r.Alike R s) : ErrorsAlike R (insideErrors stop r) (insideErrors stop' s) := by
  refine List.rel_append h.errors ?_
  rw [← h.query]
  split
  · exact h.unlessReported hstop _
  · exact .nil

omit hR in
theorem unclosedErrors_alike (h : r.Alike R s) : ErrorsAlike R (unclosedErrors stop r) (unclosedErrors stop' s) := by
  unfold unclosedErrors
  rw [← h.isCut]
  split
  · exact .nil
  · exact .cons (.on (.same _) (here_alike hstop h.rest)) .nil

theorem closeGroup_alike (h : r.Alike R s) : (closeGroup stop r).Alike R (closeGroup stop' s) := by
  have hquery : r.query.map Query.group = s.query.map Query.group := by rw [h.query]
  have hinside := insideErrors_alike hstop h
  have hboth := List.rel_append hinside (unclosedErrors_alike hstop h)
  have hrest := h.rest
  unfold closeGroup
  generalize r.rest = ts, s.rest = us at hrest ⊢
  cases hrest with
  | nil => exact ⟨hquery, .nil, hboth⟩
  | cons htu hrest =>
    simp only [← kind_eq hR htu]
    split
    · exact ⟨hquery, hrest, hinside⟩
    · exact ⟨hquery, .cons htu hrest, hboth⟩

theorem groupBody_alike {inside inside' : Reader}
    (hinside : ∀ ts us, List.Forall₂ R ts us → (inside.read ts).Alike R (inside'.read us)) (h : List.Forall₂ R ts us) :
    (groupBody stop inside ts).Alike R (groupBody stop' inside' us) := by
  have hclose := closeGroup_alike hR hstop (hinside ts us h)
  cases h with
  | nil => exact hclose
  | cons htu h =>
    simp only [groupBody, ← kind_eq hR htu]
    split
    · exact alike_error (.same _) htu h
    · exact hclose

theorem groupReader_alike (room : Nat) (t u : Token) (ts us : List Token) (htu : R t u) (h : List.Forall₂ R ts us) :
    ((groupReader stop room t).read ts).Alike R ((groupReader stop' room u).read us) := by
  induction room generalizing t u ts us with
  | zero => exact alike_error (.same _) htu .nil
  | succ room ih =>
    rw [groupReader_succ, groupReader_succ]
    refine groupBody_alike hR hstop (fun ts us h => ?_) h
    rw [expression_read, expression_read]
    exact disjunction_alike hR hstop ih h

theorem expression_alike (room : Nat) (h : List.Forall₂ R ts us) :
    ((expression stop room).read ts).Alike R ((expression stop' room).read us) := by
  rw [expression_read, expression_read]
  exact disjunction_alike hR hstop (groupReader_alike hR hstop room) h

end Rules

end Parser

/-! ## Whole rows of tokens -/

section Rows

variable {R : Token → Token → Prop} (hR : ∀ t u, R t u → t.Alike u) {ts us : List Token}

include hR

theorem tokensBeforeEnd_alike (h : List.Forall₂ R ts us) :
    List.Forall₂ R (tokensBeforeEnd ts) (tokensBeforeEnd us) := by
  unfold tokensBeforeEnd
  induction h with
  | nil => exact .nil
  | cons htu _ ih =>
    rw [List.takeWhile_cons, List.takeWhile_cons, ← (hR _ _ htu).kind]
    split
    · exact .cons htu ih
    · exact .nil

theorem find?_alike (p : TokenKind → Bool) {t u : Token} (h : List.Forall₂ R ts us) (htu : R t u) :
    R ((ts.find? (p ·.kind)).getD t) ((us.find? (p ·.kind)).getD u) := by
  induction h with
  | nil => exact htu
  | cons hxy _ ih =>
    rw [List.find?_cons, List.find?_cons, ← (hR _ _ hxy).kind]
    split
    · exact hxy
    · exact ih

omit hR in
theorem endToken_eq (ts : List Token) : endToken ts = (ts.find? (·.kind == .eof)).getD (standIn ts) := by
  unfold endToken
  cases ts.find? (·.kind == .eof) <;> rfl

/-- The ends of two rows are at the same place in both, or what stands in for them. -/
theorem endToken_alike (h : List.Forall₂ R ts us) (hstandIn : R (standIn ts) (standIn us)) :
    R (endToken ts) (endToken us) := by
  rw [endToken_eq, endToken_eq]
  exact find?_alike hR (· == .eof) h hstandIn

/-- **Rows of tokens alike read alike**, with their errors at tokens in the relation. -/
theorem parseTokens_related (h : List.Forall₂ R ts us) (hstandIn : R (standIn ts) (standIn us)) :
    (parseTokens ts).query = (parseTokens us).query ∧
      ErrorsAlike R (parseTokens ts).errors (parseTokens us).errors := by
  have hbefore := tokensBeforeEnd_alike hR h
  rw [parseTokens_eq, parseTokens_eq]
  unfold parseUpTo
  generalize tokensBeforeEnd ts = vs, tokensBeforeEnd us = ws at hbefore
  cases hbefore with
  | nil => exact ⟨rfl, .nil⟩
  | cons htu hbefore =>
    have hread := Parser.expression_alike hR (endToken_alike hR h hstandIn) Parser.maxNesting (.cons htu hbefore)
    dsimp only
    generalize (Parser.expression (endToken ts) _).read _ = r, (Parser.expression (endToken us) _).read _ = s at hread ⊢
    obtain ⟨hquery, hrest, herrors⟩ := hread
    generalize r.rest = vs', r.errors = es, s.rest = ws', s.errors = fs at hrest herrors
    cases herrors with
    | nil =>
      cases hrest with
      | nil => exact ⟨hquery, .nil⟩
      | cons hnext _ => exact ⟨hquery, .cons (.on (.unexpected hnext) hnext) .nil⟩
    | cons hef herrors =>
      cases hrest with
      | nil => exact ⟨hquery, .cons hef herrors⟩
      | cons => exact ⟨hquery, .cons hef herrors⟩

end Rows

/-! ## The places of errors -/

/-- The token at an index, or what stands in for the end. -/
def tokenAt? (ts : List Token) : Option Nat → Option Token
  | some i => ts[i]?
  | none => some (standIn ts)

/-- Tokens alike at the same place of two rows. -/
structure AlikeIn (ts us : List Token) (t u : Token) : Prop where
  alike : t.Alike u
  place : ∃ place, tokenAt? ts place = some t ∧ tokenAt? us place = some u

section Places

variable {ts us : List Token}

theorem standIn_alikeIn (ts us : List Token) : AlikeIn ts us (standIn ts) (standIn us) :=
  ⟨⟨rfl, fun h => by cases h⟩, none, rfl, rfl⟩

theorem forall₂_alikeIn (h : List.Forall₂ Token.Alike ts us) : List.Forall₂ (AlikeIn ts us) ts us := by
  obtain ⟨hlength, hget⟩ := List.forall₂_iff_get.mp h
  refine List.forall₂_iff_get.mpr ⟨hlength, fun i hts hus => ⟨hget i hts hus, some i, ?_, ?_⟩⟩
  · exact List.getElem?_eq_getElem hts
  · exact List.getElem?_eq_getElem hus

theorem places_of_errorsAlike {es fs : List SyntaxError} (h : ErrorsAlike (AlikeIn ts us) es fs) :
    ∃ places : List (Option Nat), (∀ i, some i ∈ places → i < ts.length) ∧
      es.map (·.token) = places.map (tokenAt? ts) ∧ fs.map (·.token) = places.map (tokenAt? us) := by
  induction h with
  | nil => exact ⟨[], by simp, rfl, rfl⟩
  | @cons e f es fs hef _ ih =>
    obtain ⟨places, hbound, hes, hfs⟩ := ih
    obtain ⟨-, -, place, ht, hu⟩ := hef
    refine ⟨place :: places, fun i hi => ?_, ?_, ?_⟩
    · rcases List.mem_cons.mp hi with rfl | hi
      · exact (List.getElem?_eq_some_iff.mp ht).1
      · exact hbound i hi
    · rw [List.map_cons, List.map_cons, ht, hes]; rfl
    · rw [List.map_cons, List.map_cons, hu, hfs]; rfl

end Places

/-! ## Blanks between texts -/

/-- Tokens of the same kind and value, wherever they stand. -/
structure Token.SameText (t u : Token) : Prop where
  kind : t.kind = u.kind
  value : t.value = u.value

theorem Token.SameText.text {t u : Token} (h : t.SameText u) : t.text = u.text := by
  rw [Token.text, Token.text, h.kind, h.value]

theorem Fault.Alike.message {f g : Fault} (h : f.Alike Token.SameText g) : f.message = g.message := by
  cases h with
  | same => rfl
  | stated h | unknownField h | missingValue h => rw [h.value]
  | unexpected h => exact congrArg ("Unexpected token: " ++ ·) h.text

theorem SyntaxError.Alike.message {e f : SyntaxError} (h : e.Alike Token.SameText f) : e.message = f.message := by
  obtain ⟨hfault, -⟩ := h
  exact hfault.message

/-- Other blanks only move the tokens behind them. -/
theorem tokenize_sameText {a v w : String} (ha : NoError (tokenize a)) (hv : IsBlanks v) (hw : IsBlanks w)
    (b : String) : List.Forall₂ Token.SameText (tokenize (a ++ v ++ b)) (tokenize (a ++ w ++ b)) := by
  rw [tokenize_blanks ha hv, tokenize_blanks ha hw]
  refine List.rel_append (List.forall₂_same.mpr fun _ _ => ⟨rfl, rfl⟩) ?_
  rw [List.forall₂_map_left_iff, List.forall₂_map_right_iff]
  exact List.forall₂_same.mpr fun _ _ => ⟨rfl, rfl⟩

/-- **Neither layout nor spelling changes what is read.** Rows of tokens alike make the same query, with errors at the
same places. -/
theorem parse_alike :
    (∀ ts us : List Token, List.Forall₂ Token.Alike ts us →
      (parseTokens ts).query = (parseTokens us).query ∧
      (parseTokens ts).errors.length = (parseTokens us).errors.length ∧
      ∃ places : List (Option Nat), (∀ i, some i ∈ places → i < ts.length) ∧
        (parseTokens ts).errors.map (·.token) = places.map (tokenAt? ts) ∧
        (parseTokens us).errors.map (·.token) = places.map (tokenAt? us)) ∧
    (∀ a v w b : String, NoError (tokenize a) → IsBlanks v → IsBlanks w →
      (parseQuery (a ++ v ++ b)).query = (parseQuery (a ++ w ++ b)).query ∧
      (parseQuery (a ++ v ++ b)).errors.map (·.message) = (parseQuery (a ++ w ++ b)).errors.map (·.message)) := by
  refine ⟨fun ts us h => ?_, fun a v w b ha hv hw => ?_⟩
  · obtain ⟨hquery, herrors⟩ :=
      parseTokens_related (fun _ _ htu => htu.alike) (forall₂_alikeIn h) (standIn_alikeIn ts us)
    exact ⟨hquery, herrors.length_eq, places_of_errorsAlike herrors⟩
  · have hsame : ∀ t u, Token.SameText t u → t.Alike u := fun _ _ htu => ⟨htu.kind, fun _ => htu.value⟩
    obtain ⟨hquery, herrors⟩ := parseTokens_related hsame (tokenize_sameText ha hv hw b) ⟨rfl, rfl⟩
    exact ⟨hquery, List.forall₂_eq_eq_eq ▸
      List.forall₂_map_left_iff.mpr (List.forall₂_map_right_iff.mpr (herrors.imp fun _ _ hef => hef.message))⟩

/-- A range without a dash and a parenthesis without an end, in rows without an end, and a colon behind blanks. -/
theorem parse_alike_freq :
    (parseTokens [⟨.field .frequency, "freq", 0⟩, ⟨.range, "7", 5⟩, ⟨.openParen, "(", 6⟩]).query =
      (parseTokens [⟨.field .frequency, "frequency", 9⟩, ⟨.range, "7", 0⟩, ⟨.openParen, "<", 0⟩]).query ∧
    (parseQuery ("freq" ++ " " ++ ":7 (")).errors.map (·.message) =
      (parseQuery ("freq" ++ "\t\n" ++ ":7 (")).errors.map (·.message) := by
  have hno : NoError (tokenize "freq") := by unfold NoError; decide +kernel
  have hone : IsBlanks " " := ⟨by decide, List.all_eq_true.mp (by decide +kernel)⟩
  have htwo : IsBlanks "\t\n" := ⟨by decide, List.all_eq_true.mp (by decide +kernel)⟩
  exact ⟨(parse_alike.1 _ _ (.cons ⟨rfl, by simp [Parser.isValue]⟩
    (.cons ⟨rfl, fun _ => rfl⟩ (.cons ⟨rfl, by simp [Parser.isValue]⟩ .nil)))).1,
    (parse_alike.2 "freq" " " "\t\n" ":7 (" hno hone htwo).2⟩

end KanjiSearch
