import KanjiSearch.Proofs.Grammar.OptionalAnd

/-!
# What faults quote

A fault that quotes a text of the query quotes a token of it, or digits of one, and the rule that finds the fault tells
the kind of this token (`Fault.Quotes`). What is left over behind a query does not start an operand, because the query
would have gone on there (`disjunction_halts`): so no quotation is ever left over.

* `fieldValue_quotes`: the values of fields.
* `operand_quotes`, `disjunction_quotes`: the rules, given this of what follows an opening parenthesis.
* `groupReader_quotes`: what follows an opening parenthesis, by induction on the room for groups.
* `quotes_of_parseTokens`: whole rows of tokens.
-/

open KanjiSearch.Lexer (AllLexical)

namespace KanjiSearch

/-- The faults of a query of the tokens `ts`, by what they quote. -/
inductive Fault.Quotes (ts : List Token) : Fault → Prop
  | stated {t} : t ∈ ts → t.kind = .error → Quotes ts (.stated t.value)
  | unexpected {t} : t ∈ ts → Parser.startsOperand t.kind = false → Quotes ts (.unexpected t)
  | missingOperand {after} : Quotes ts (.missingOperand after)
  | unknownField {t} : t ∈ ts → t.kind = .unknownField → Quotes ts (.unknownField t.value)
  | emptyGroup : Quotes ts .emptyGroup
  | unclosedGroup : Quotes ts .unclosedGroup
  | nestedTooDeeply : Quotes ts .nestedTooDeeply
  | missingValue {t f} : t ∈ ts → t.kind = .field f → Quotes ts (.missingValue t.value)
  | missingNumber : Quotes ts .missingNumber
  | invalidNumber {t digits} : t ∈ ts → t.kind = .number ∨ t.kind = .range → digits <:+: t.value.toList →
      Quotes ts (.invalidNumber (String.ofList digits))
  | missingLevel : Quotes ts .missingLevel
  | invalidLevel {t} : t ∈ ts → t.kind = .text → Quotes ts (.invalidLevel t.value)

end KanjiSearch

namespace KanjiSearch.Parser

/-- The faults of a reading quote tokens of `all`. -/
def Reading.Quotes (all : List Token) (r : Reading) : Prop :=
  ∀ e ∈ r.errors, e.fault.Quotes all

variable {stop t : Token} {all ts rest : List Token} {f : Field} {q : Option Query} {r next : Reading} {fault : Fault}

theorem quotes_nothing : Reading.Quotes all ⟨q, rest, []⟩ :=
  List.forall_mem_nil _

theorem quotes_on (h : fault.Quotes all) : Reading.Quotes all ⟨q, rest, [.on fault t]⟩ :=
  List.forall_mem_singleton.mpr h

theorem Reading.Quotes.after (h : next.Quotes all) (hr : r.Quotes all) : (next.after r.errors).Quotes all :=
  List.forall_mem_append.mpr ⟨hr, h⟩

theorem unlessReported_quotes (h : fault.Quotes all) : ∀ e ∈ unlessReported stop fault r, e.fault.Quotes all := by
  unfold unlessReported
  split
  · exact List.forall_mem_singleton.mpr h
  · exact List.forall_mem_nil _

/-- A rule that ended without what it needs. -/
theorem Reading.Quotes.missing (hr : r.Quotes all) (h : fault.Quotes all) :
    Reading.Quotes all ⟨q, rest, r.errors ++ unlessReported stop fault r⟩ :=
  List.forall_mem_append.mpr ⟨hr, unlessReported_quotes h⟩

/-! ## Values of fields -/

theorem textValue_quotes {spelling : String} (hspelling : Fault.Quotes all (.missingValue spelling)) :
    (textValue stop f spelling ts).Quotes all := by
  unfold textValue
  split
  · exact quotes_on hspelling
  · split
    · exact quotes_nothing
    · exact quotes_nothing
    · exact quotes_on hspelling

theorem withNumber_quotes (ht : t ∈ all) (hkind : t.kind = .number ∨ t.kind = .range) {digits : List Char}
    (hdigits : digits <:+: t.value.toList) {use : UInt64 → Reading} (huse : ∀ n, (use n).Quotes all) :
    (withNumber t digits rest use).Quotes all := by
  unfold withNumber
  split
  · exact huse _
  · exact quotes_on (.invalidNumber ht hkind hdigits)

theorem comparedFrequency_quotes (op : Comparison) (hts : ts <:+ all) :
    (comparedFrequency stop op ts).Quotes all := by
  unfold comparedFrequency
  split
  · exact quotes_on .missingNumber
  · split
    · next ht => exact withNumber_quotes (hts.mem List.mem_cons_self) (.inl ht) List.infix_rfl fun _ => quotes_nothing
    · exact quotes_on .missingNumber

theorem comparedLevel_quotes (op : Comparison) (hts : ts <:+ all) : (comparedLevel stop op ts).Quotes all := by
  unfold comparedLevel
  split
  · exact quotes_on .missingLevel
  · split
    · next ht =>
      split
      · exact quotes_nothing
      · exact quotes_on (.invalidLevel (hts.mem List.mem_cons_self) ht)
    · exact quotes_on .missingLevel

theorem rangeValue_quotes (ht : t ∈ all) (hkind : t.kind = .range) : (rangeValue f t rest).Quotes all := by
  unfold rangeValue
  split
  · exact quotes_nothing
  · next low high hsplit =>
    have hvalue := Text.eq_of_splitOnce hsplit
    have hlow : low <:+: t.value.toList := hvalue ▸ List.infix_append_left
    have hhigh : high <:+: t.value.toList := hvalue ▸ List.infix_append_of_infix_right (List.infix_cons List.infix_rfl)
    refine withNumber_quotes ht (.inr hkind) hlow fun _ => ?_
    exact withNumber_quotes ht (.inr hkind) hhigh fun _ => quotes_nothing

theorem fieldValue_quotes {spelling : String} (hspelling : Fault.Quotes all (.missingValue spelling))
    (hts : ts <:+ all) : (fieldValue stop f spelling ts).Quotes all := by
  unfold fieldValue
  split
  · exact textValue_quotes hspelling
  · next t rest =>
    have ht : t ∈ all := hts.mem List.mem_cons_self
    have hrest : rest <:+ all := (List.suffix_cons ..).trans hts
    split
    · exact comparedFrequency_quotes _ hrest
    · exact comparedLevel_quotes _ hrest
    · split
      · next hkind => exact rangeValue_quotes ht hkind
      · next hkind => exact withNumber_quotes ht (.inl hkind) List.infix_rfl fun _ => quotes_nothing
      · exact textValue_quotes hspelling
    · exact textValue_quotes hspelling

/-! ## Operands and their rows -/

section Rules

variable {group : Token → Reader} (hgroup : ∀ t ts, ts <:+ all → ((group t).read ts).Quotes all)
include hgroup

theorem primary_quotes (hts : ts <:+ all) : (primary stop group ts).Quotes all := by
  unfold primary
  split
  · exact quotes_nothing
  · next t rest =>
    have ht : t ∈ all := hts.mem List.mem_cons_self
    have hrest : rest <:+ all := (List.suffix_cons ..).trans hts
    split
    · exact hgroup t rest hrest
    · next hkind => exact fieldValue_quotes (.missingValue ht hkind) hrest
    · next hkind => exact quotes_on (.unknownField ht hkind)
    · exact quotes_nothing
    · exact quotes_nothing
    · next hkind => exact quotes_on (.stated ht hkind)
    · exact quotes_nothing

theorem operand_quotes (hts : ts <:+ all) : (operand stop group ts).Quotes all := by
  unfold operand
  split
  · exact quotes_nothing
  · split
    · next t rest _ =>
      have hinner : (primary stop group rest).Quotes all := primary_quotes hgroup ((List.suffix_cons ..).trans hts)
      unfold negation
      split
      · exact hinner
      · exact hinner.missing .missingOperand
    · exact primary_quotes hgroup hts

theorem conjunctsFrom_quotes (left : Query) (ts : List Token) : ts <:+ all →
    (conjunctsFrom stop group left ts).Quotes all := by
  fun_induction conjunctsFrom stop group left ts with
  | case1 => exact fun _ => quotes_nothing
  | case2 left t rest ht r right hright ih =>
    intro hts
    have hrest : rest <:+ all := (List.suffix_cons ..).trans hts
    exact (ih ((operand_rest ..).trans hrest)).after (operand_quotes hgroup hrest)
  | case3 left t rest ht r hnone =>
    exact fun hts => (operand_quotes hgroup ((List.suffix_cons ..).trans hts)).missing .missingOperand
  | case4 left t rest hne ht r ih =>
    exact fun hts => (ih ((operand_rest ..).trans hts)).after (operand_quotes hgroup hts)
  | case5 => exact fun _ => quotes_nothing

theorem conjunction_quotes (hts : ts <:+ all) : (conjunction stop group ts).Quotes all := by
  have hoperand : (operand stop group ts).Quotes all := operand_quotes hgroup hts
  unfold conjunction
  simp only
  split
  · exact (conjunctsFrom_quotes hgroup _ _ ((operand_rest ..).trans hts)).after hoperand
  · exact hoperand

theorem disjunctsFrom_quotes (left : Query) (ts : List Token) : ts <:+ all →
    (disjunctsFrom stop group left ts).Quotes all := by
  fun_induction disjunctsFrom stop group left ts with
  | case1 => exact fun _ => quotes_nothing
  | case2 left t rest ht r right hright ih =>
    intro hts
    have hrest : rest <:+ all := (List.suffix_cons ..).trans hts
    exact (ih ((conjunction_rest ..).trans hrest)).after (conjunction_quotes hgroup hrest)
  | case3 left t rest ht r hnone =>
    exact fun hts => (conjunction_quotes hgroup ((List.suffix_cons ..).trans hts)).missing .missingOperand
  | case4 => exact fun _ => quotes_nothing

theorem disjunction_quotes (hts : ts <:+ all) : (disjunction stop group ts).Quotes all := by
  have hconjunction : (conjunction stop group ts).Quotes all := conjunction_quotes hgroup hts
  unfold disjunction
  simp only
  split
  · exact (disjunctsFrom_quotes hgroup _ _ ((conjunction_rest ..).trans hts)).after hconjunction
  · exact hconjunction

end Rules

/-! ## Parentheses -/

theorem closeGroup_quotes (hr : r.Quotes all) : (closeGroup stop r).Quotes all := by
  have hinside : ∀ e ∈ insideErrors stop r, e.fault.Quotes all := by
    refine List.forall_mem_append.mpr ⟨hr, ?_⟩
    split
    · exact unlessReported_quotes .emptyGroup
    · exact List.forall_mem_nil _
  have hunclosed : ∀ e ∈ unclosedErrors stop r, e.fault.Quotes all := by
    unfold unclosedErrors
    split
    · exact List.forall_mem_nil _
    · exact List.forall_mem_singleton.mpr .unclosedGroup
  unfold closeGroup
  split
  · exact List.forall_mem_append.mpr ⟨hinside, hunclosed⟩
  · split
    · exact hinside
    · exact List.forall_mem_append.mpr ⟨hinside, hunclosed⟩

theorem groupReader_quotes (room : Nat) (t : Token) (ts : List Token) (hts : ts <:+ all) :
    ((groupReader stop room t).read ts).Quotes all := by
  induction room generalizing t ts with
  | zero => exact quotes_on .nestedTooDeeply
  | succ room ih =>
    have hinside : ((expression stop room).read ts).Quotes all := by
      rw [expression_read]
      exact disjunction_quotes ih hts
    rw [groupReader_succ]
    unfold groupBody
    split
    · exact closeGroup_quotes hinside
    · split
      · exact quotes_on .emptyGroup
      · exact closeGroup_quotes hinside

/-! ## What is left over -/

/-- Without faults, no operand starts where a rule ended. -/
def Reading.Halts (r : Reading) : Prop :=
  r.errors = [] → ∀ t, r.rest.head? = some t → startsOperand t.kind = false

section Halts

variable {group : Token → Reader} (hreports : ∀ t ts, Reports ((group t).read ts))
include hreports

theorem conjunction_halts (hts : AllLexical ts) : (conjunction stop group ts).Halts := by
  unfold conjunction
  simp only
  split
  · next left hleft =>
    exact fun he t ht => (conjunctsFrom_stops left _ (List.append_eq_nil_iff.mp he).2 t ht).2
  · next hnone =>
    intro he u hu
    cases ts with
    | nil => cases hu
    | cons t rest =>
      cases ht : startsOperand t.kind with
      | true => exact absurd he (operand_reports hreports hts.tail ht hnone)
      | false =>
        rw [operand_of_not_starts ht] at hu
        obtain rfl : t = u := Option.some.inj hu
        exact ht

theorem disjunctsFrom_halts (left : Query) (ts : List Token) : AllLexical ts →
    (∀ t, ts.head? = some t → startsOperand t.kind = false) → (disjunctsFrom stop group left ts).Halts := by
  fun_induction disjunctsFrom stop group left ts with
  | case1 => exact fun _ hstart _ => hstart
  | case2 left t rest ht r right hright ih =>
    intro hts _ he
    obtain ⟨hfirst, hmore⟩ := List.append_eq_nil_iff.mp he
    exact ih (hts.tail.suffix (conjunction_rest ..)) (conjunction_halts hreports hts.tail hfirst) hmore
  | case3 left t rest ht r hnone => exact fun _ _ he => absurd he (errors_unlessReported _ _)
  | case4 => exact fun _ hstart _ => hstart

theorem disjunction_halts (hts : AllLexical ts) : (disjunction stop group ts).Halts := by
  have hconjunction : (conjunction stop group ts).Halts := conjunction_halts hreports hts
  unfold disjunction
  simp only
  split
  · next left hleft =>
    intro he
    obtain ⟨hfirst, hmore⟩ := List.append_eq_nil_iff.mp he
    exact disjunctsFrom_halts hreports left _ (hts.suffix (conjunction_rest ..)) (hconjunction hfirst) hmore
  · exact hconjunction

end Halts

end KanjiSearch.Parser

open KanjiSearch.Parser

namespace KanjiSearch

/-! ## Whole rows -/

/-- **What a fault quotes is a token of the query**, of a kind that the fault tells. -/
theorem quotes_of_parseTokens {ts : List Token} (hts : AllLexical (tokensBeforeEnd ts)) :
    ∀ e ∈ (parseTokens ts).errors, e.fault.Quotes (tokensBeforeEnd ts) := by
  rw [parseTokens_eq]
  unfold parseUpTo
  split
  · exact List.forall_mem_nil _
  · next t rest heq =>
    rw [heq] at hts ⊢
    simp only [expression_read]
    have hquotes : (disjunction (endToken ts) (groupReader (endToken ts) maxNesting) (t :: rest)).Quotes (t :: rest) :=
      disjunction_quotes (groupReader_quotes maxNesting) List.suffix_rfl
    have hhalts : (disjunction (endToken ts) (groupReader (endToken ts) maxNesting) (t :: rest)).Halts :=
      disjunction_halts (groupReader_reports maxNesting) hts
    have hrest := disjunction_rest (endToken ts) (groupReader (endToken ts) maxNesting) (t :: rest)
    split
    · next next more hleft he =>
      rw [hleft] at hrest
      refine List.forall_mem_singleton.mpr (.unexpected (hrest.mem List.mem_cons_self) (hhalts he next ?_))
      rw [hleft]
      rfl
    · exact hquotes

end KanjiSearch
