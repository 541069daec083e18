import KanjiSearch.Proofs.Grammar.Course
import KanjiSearch.Proofs.Grammar.EndOfTokens
import KanjiSearch.Proofs.Text.Pieces

/-!
# What is spelt is read

Reading follows a spelling token by token, whatever stands behind it (`Spells.read`): a primary or an operand is left at
once, and a row goes on with the query spelt so far (`Layer.goOn`). This holds as long as the groups of the query fit
into the room for groups; otherwise the first group too many drops all that is left and is the only fault
(`Spells.read_cut`).

* `parseTokens_of_spells`: a row of tokens that spells a query reads as this query, without an error.
* `parseTokens_of_nesting`: if its groups nest too deeply, this is its only error.
-/

namespace KanjiSearch.Parser

variable {stop : Token}

/-! ## Values of fields -/

/-- The value of a field is read wherever its tokens stand. -/
theorem fieldValue_of_fieldTokens {f : Field} {ts : List Token} {q : Query} (h : FieldTokens f ts q)
    (spelling : String) (rest : List Token) : fieldValue stop f spelling (ts ++ rest) = ⟨some q, rest, []⟩ := by
  cases h with
  | text ht | quoted ht => cases f <;> simp [fieldValue, textValue, comparison?, ht]
  | number hf ht hn => subst hf; simp [fieldValue, comparison?, ht, withNumber, hn]
  | comparison hf ho ht hn => subst hf; simp [fieldValue, ho, comparedFrequency, ht, withNumber, hn]
  | range hf ht hs hl hh => subst hf; simp [fieldValue, comparison?, ht, rangeValue, hs, withNumber, hl, hh]
  | level hf ho ht hr => subst hf; simp [fieldValue, ho, comparedLevel, ht, hr]

/-- The tokens of the grammar are those that the rule takes. -/
theorem FieldTest.fieldTokens {f : Field} {ts : List Token} {q : Query} (h : FieldTest f ts q) :
    FieldTokens f ts q := by
  cases h with
  | text ht => exact .text ht
  | quoted ht => exact .quoted ht
  | number hf ht hn => exact .number hf ht hn.count?
  | comparison hf ho ht hn => exact .comparison hf ho ht hn.count?
  | @range t low high min max hf ht hs hl hh =>
    have hdash : Text.splitOnce '-' t.value.toList = some (low, high) := by
      rw [hs, Text.splitOnce_append (Text.not_mem_of_isNumber hl.isNumber (by decide))]
    exact .range hf ht hdash hl.count? hh.count?
  | level hf ho ht hr => exact .level hf ho ht hr

/-! ## Layers -/

/-- The rule of a layer. -/
def Layer.rule (stop : Token) (group : Token → Reader) : Layer → List Token → Reading
  | .primary => Parser.primary stop group
  | .operand => Parser.operand stop group
  | .conjunction => Parser.conjunction stop group
  | .disjunction => Parser.disjunction stop group

/-- What the rule of a layer does when it has read `q` and stands before `rest`. -/
def Layer.goOn (stop : Token) (group : Token → Reader) : Layer → Query → List Token → Reading
  | .primary, q, rest | .operand, q, rest => ⟨some q, rest, []⟩
  | .conjunction, q, rest => conjunctsFrom stop group q rest
  | .disjunction, q, rest => disjunctsFrom stop group q rest

/-! ## Spellings with room for their groups -/

/-- A spelling at this layer may end where `ts` starts. Only a disjunction must be followed by something else than a
further operand of its last conjunction. -/
def Layer.EndsAt : Layer → List Token → Prop
  | .disjunction, ts => Stops ts
  | _, _ => True

/-- **Reading follows a spelling** whose groups fit into the room for groups. -/
theorem Spells.read (stop : Token) {layer : Layer} {ts : List Token} {q : Query} (h : Spells layer ts q) :
    ∀ room, q.nesting ≤ room → ∀ rest, layer.EndsAt rest →
      layer.rule stop (groupReader stop room) (ts ++ rest) = layer.goOn stop (groupReader stop room) q rest := by
  induction h with
  | text ht | quoted ht => intro room _ rest _; simp [Layer.rule, Layer.goOn, Parser.primary, ht]
  | field ht hv =>
    intro room _ rest _
    simp only [Layer.rule, List.cons_append, Parser.primary, ht, fieldValue_of_fieldTokens hv.fieldTokens, Layer.goOn]
  | @group o ts c q ho h hc ih =>
    intro room hroom rest _
    obtain ⟨room, rfl⟩ : ∃ m, room = m + 1 := ⟨room - 1, by simp only [Query.nesting] at hroom; omega⟩
    have hstops : Stops (c :: rest) := fun t ht => by cases ht; simp [hc, startsOperand]
    have hinside := ih room (by simpa [Query.nesting] using hroom) (c :: rest) hstops
    have hnor : ∀ t, (c :: rest).head? = some t → t.kind ≠ .or := fun t ht => by cases ht; simp [hc]
    simp only [Layer.rule, Layer.goOn, disjunctsFrom_of_ne_or _ hnor] at hinside
    obtain ⟨t, us, rfl, ht⟩ := h.start
    simp only [Layer.rule, Layer.goOn, List.cons_append, List.append_assoc, List.nil_append, Parser.primary, ho,
      groupReader_succ] at hinside ⊢
    rw [groupBody_of_starts ht, hinside]
    simp [closeGroup, hc, insideErrors]
  | @primary ts q h ih =>
    intro room hroom rest _
    have hread := ih room hroom rest trivial
    obtain ⟨t, us, rfl, ht⟩ := h.primary_start
    simp only [Layer.rule, Layer.goOn] at hread ⊢
    rw [operand_of_ne_not _ fun u hu => by cases hu; exact ht, hread]
  | not ho _ ih =>
    intro room hroom rest _
    have hread := ih room hroom rest trivial
    simp only [Layer.rule, Layer.goOn] at hread
    simp [Layer.rule, Layer.goOn, Parser.operand, ho, hread, negation]
  | operand _ ih =>
    intro room hroom rest _
    have hread := ih room hroom rest trivial
    simp only [Layer.rule, Layer.goOn] at hread
    simp [Layer.rule, Layer.goOn, Parser.conjunction, hread]
  | @and ts o us left right _ ho _ ihl ihr =>
    intro room hroom rest _
    obtain ⟨hl, hr⟩ := Nat.max_le.mp hroom
    have hleft := ihl room hl (o :: (us ++ rest)) trivial
    have hright := ihr room hr rest trivial
    simp only [Layer.rule, Layer.goOn] at hleft hright ⊢
    rw [List.append_assoc, List.cons_append, hleft, conjunctsFrom_and_some _ ho hright rfl, after_nil]
  | @adjacent ts us left right _ h ihl ihr =>
    intro room hroom rest _
    obtain ⟨hl, hr⟩ := Nat.max_le.mp hroom
    have hleft := ihl room hl (us ++ rest) trivial
    have hright := ihr room hr rest trivial
    simp only [Layer.rule, Layer.goOn] at hleft hright ⊢
    obtain ⟨t, vs, rfl, ht⟩ := h.start
    rw [List.cons_append] at hright
    rw [List.append_assoc, hleft, List.cons_append, conjunctsFrom_operand _ ht hright, after_nil]
    rfl
  | conjunction _ ih =>
    intro room hroom rest hrest
    have hread := ih room hroom rest trivial
    simp only [Layer.rule, Layer.goOn, conjunctsFrom_of_stops _ hrest] at hread
    simp [Layer.rule, Layer.goOn, Parser.disjunction, hread]
  | @or ts o us left right _ ho _ ihl ihr =>
    intro room hroom rest hrest
    obtain ⟨hl, hr⟩ := Nat.max_le.mp hroom
    have hstops : Stops (o :: (us ++ rest)) := fun t ht => by cases ht; simp [ho, startsOperand]
    have hleft := ihl room hl (o :: (us ++ rest)) hstops
    have hright := ihr room hr rest trivial
    simp only [Layer.rule, Layer.goOn, conjunctsFrom_of_stops _ hrest] at hleft hright ⊢
    rw [List.append_assoc, List.cons_append, hleft, disjunctsFrom_or_some _ ho hright rfl, after_nil]

/-! ## Spellings without room for their groups -/

/-- All that is left was dropped at a parenthesis, and this is the only fault. -/
def Cut (r : Reading) : Prop :=
  r.rest = [] ∧ ∃ t, t.kind = .openParen ∧ r.errors = [.on .nestedTooDeeply t]

section Cuts

variable {group : Token → Reader} {ts : List Token} {r : Reading} (hcut : Cut r)
include hcut

/-- A row ends at a cut. -/
theorem Cut.after (q : Option Query) : Cut (Reading.after r.errors ⟨q, [], []⟩) := by
  obtain ⟨-, t, ht, he⟩ := hcut
  exact ⟨rfl, t, ht, by simp [Reading.after, he]⟩

theorem Cut.unlessReported (fault : Fault) : unlessReported stop fault r = [] := by
  obtain ⟨-, t, -, he⟩ := hcut
  simp [Parser.unlessReported, he]

theorem Cut.negation : Cut (negation stop r) := by
  unfold Parser.negation
  split
  · exact hcut
  · rw [hcut.unlessReported, List.append_nil]
    exact hcut

theorem Cut.closeGroup : Cut (closeGroup stop r) := by
  obtain ⟨hrest, t, ht, he⟩ := hcut
  have hcutOff : r.isCut = true := by simp [Reading.isCut, he, SyntaxError.on]
  refine ⟨by simp [Parser.closeGroup, hrest], t, ht, ?_⟩
  simp [Parser.closeGroup, hrest, insideErrors, unclosedErrors, hcutOff, Parser.unlessReported, he]

theorem Cut.conjunction (hr : operand stop group ts = r) : Cut (conjunction stop group ts) := by
  unfold Parser.conjunction
  cases hq : r.query with
  | none => simpa only [hr, hq] using hcut
  | some left =>
    simp only [hr, hq, hcut.1, conjunctsFrom_nil]
    exact hcut.after _

theorem Cut.disjunction (hr : Parser.conjunction stop group ts = r) : Cut (disjunction stop group ts) := by
  unfold Parser.disjunction
  cases hq : r.query with
  | none => simpa only [hr, hq] using hcut
  | some left =>
    simp only [hr, hq, hcut.1, disjunctsFrom_nil]
    exact hcut.after _

variable {o : Token}

theorem Cut.conjunctsFrom_and (ho : o.kind = .and) (hr : operand stop group ts = r) (left : Query) :
    Cut (conjunctsFrom stop group left (o :: ts)) := by
  cases hq : r.query with
  | none =>
    rw [conjunctsFrom_and_none _ ho hr hq, hcut.unlessReported, List.append_nil]
    exact hcut
  | some right =>
    rw [conjunctsFrom_and_some _ ho hr hq, hcut.1, conjunctsFrom_nil]
    exact hcut.after _

theorem Cut.conjunctsFrom_operand (ho : startsOperand o.kind = true) (hr : operand stop group (o :: ts) = r)
    (left : Query) : Cut (conjunctsFrom stop group left (o :: ts)) := by
  rw [Parser.conjunctsFrom_operand _ ho hr, hcut.1, conjunctsFrom_nil]
  exact hcut.after _

theorem Cut.disjunctsFrom_or (ho : o.kind = .or) (hr : Parser.conjunction stop group ts = r) (left : Query) :
    Cut (disjunctsFrom stop group left (o :: ts)) := by
  cases hq : r.query with
  | none =>
    rw [disjunctsFrom_or_none _ ho hr hq, hcut.unlessReported, List.append_nil]
    exact hcut
  | some right =>
    rw [disjunctsFrom_or_some _ ho hr hq, hcut.1, disjunctsFrom_nil]
    exact hcut.after _

end Cuts

/-- **Reading ends at the first group without room**, wherever the spelling opens it. -/
theorem Spells.read_cut (stop : Token) {layer : Layer} {ts : List Token} {q : Query} (h : Spells layer ts q) :
    ∀ room, room < q.nesting → ∀ rest, Cut (layer.rule stop (groupReader stop room) (ts ++ rest)) := by
  induction h with
  | text | quoted => intro room hroom; exact absurd hroom (Nat.not_lt_zero room)
  | field _ hv => intro room hroom; rw [hv.nesting] at hroom; exact absurd hroom (Nat.not_lt_zero room)
  | @group o ts c q ho h hc ih =>
    intro room hroom rest
    simp only [Layer.rule, List.cons_append, Parser.primary, ho]
    cases room with
    | zero => exact ⟨rfl, o, ho, rfl⟩
    | succ room =>
      have hinside := ih room (by simpa [Query.nesting] using hroom) (c :: rest)
      obtain ⟨t, us, rfl, ht⟩ := h.start
      simp only [Layer.rule, List.cons_append, List.append_assoc, List.nil_append] at hinside ⊢
      rw [groupReader_succ, groupBody_of_starts ht]
      exact hinside.closeGroup
  | @primary ts q h ih =>
    intro room hroom rest
    obtain ⟨t, us, rfl, ht⟩ := h.primary_start
    simp only [Layer.rule]
    rw [operand_of_ne_not _ fun u hu => by cases hu; exact ht]
    exact ih room hroom rest
  | not ho _ ih =>
    intro room hroom rest
    simp only [Layer.rule, List.cons_append, Parser.operand, ho, if_pos]
    exact (ih room hroom rest).negation
  | operand _ ih => exact fun room hroom rest => (ih room hroom rest).conjunction rfl
  | @and ts o us left right hl ho _ ihl ihr =>
    intro room hroom rest
    rw [List.append_assoc]
    by_cases hleft : room < left.nesting
    · exact ihl room hleft _
    · have hright : room < right.nesting := by simp only [Query.nesting] at hroom; omega
      have hread := hl.read stop room (by omega) (o :: us ++ rest) trivial
      simp only [Layer.rule, Layer.goOn] at hread ⊢
      rw [hread]
      exact (ihr room hright rest).conjunctsFrom_and ho rfl left
  | @adjacent ts us left right hl h ihl ihr =>
    intro room hroom rest
    rw [List.append_assoc]
    by_cases hleft : room < left.nesting
    · exact ihl room hleft _
    · have hright : room < right.nesting := by simp only [Query.nesting] at hroom; omega
      have hread := hl.read stop room (by omega) (us ++ rest) trivial
      simp only [Layer.rule, Layer.goOn] at hread ⊢
      rw [hread]
      obtain ⟨t, vs, rfl, ht⟩ := h.start
      exact (ihr room hright rest).conjunctsFrom_operand ht rfl left
  | conjunction _ ih => exact fun room hroom rest => (ih room hroom rest).disjunction rfl
  | @or ts o us left right hl ho _ ihl ihr =>
    intro room hroom rest
    rw [List.append_assoc]
    by_cases hleft : room < left.nesting
    · exact ihl room hleft _
    · have hright : room < right.nesting := by simp only [Query.nesting] at hroom; omega
      have hstops : Stops (o :: us ++ rest) := fun t ht => by cases ht; simp [ho, startsOperand]
      have hread := hl.read stop room (by omega) (o :: us ++ rest) hstops
      simp only [Layer.rule, Layer.goOn] at hread ⊢
      rw [hread]
      exact (ihr room hright rest).disjunctsFrom_or ho rfl left

end KanjiSearch.Parser

open KanjiSearch.Parser

namespace KanjiSearch

/-! ## Whole queries -/

variable {ts : List Token} {q : Query} (h : Spells .disjunction (tokensBeforeEnd ts) q)
include h

theorem parseTokens_eq_of_spells : parseTokens ts =
    let r := Layer.rule (endToken ts) (groupReader (endToken ts) maxNesting) .disjunction (tokensBeforeEnd ts)
    match r.rest, r.errors with
    | next :: _, [] => ⟨r.query, [.on (.unexpected next) next]⟩
    | _, errors => ⟨r.query, errors⟩ := by
  obtain ⟨t, us, hts, -⟩ := h.start
  rw [parseTokens_eq, hts]
  rfl

/-- **What spells a query reads as this query**, if its groups nest at most as deep as groups may. -/
theorem parseTokens_of_spells (hn : q.nesting ≤ maxNesting) : parseTokens ts = ⟨some q, []⟩ := by
  have hread := h.read (endToken ts) maxNesting hn [] stops_nil
  rw [List.append_nil] at hread
  rw [parseTokens_eq_of_spells h, hread]
  simp [Layer.goOn]

/-- What spells a query whose groups nest too deeply has this as its only error. -/
theorem parseTokens_of_nesting (hn : maxNesting < q.nesting) :
    ∃ t, t.kind = .openParen ∧ (parseTokens ts).errors = [.on .nestedTooDeeply t] := by
  have hcut := h.read_cut (endToken ts) maxNesting hn []
  rw [List.append_nil] at hcut
  obtain ⟨hrest, t, ht, he⟩ := hcut
  refine ⟨t, ht, ?_⟩
  rw [parseTokens_eq_of_spells h]
  simp only [hrest, he]

end KanjiSearch
