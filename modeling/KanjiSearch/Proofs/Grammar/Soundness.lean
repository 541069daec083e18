import KanjiSearch.Proofs.Grammar.Completeness
import KanjiSearch.Proofs.Lexer.Lexical

/-!
# What is read without a fault is spelt

A rule that makes a query of some tokens and reports nothing has taken a spelling of this query (`Accepts`), and a rule
that starts to read and makes no query reports a fault (`Reports`). Rows of operands need both, because they drop an
operand that made no query. Only a range without a dash would fail in silence, and no token is one (`AllLexical`).

* `operand_accepts`, `disjunction_accepts`: the rules, given this of what follows an opening parenthesis.
* `groupReader_accepts`: what follows an opening parenthesis, by induction on the room for groups.
* `spells_of_parseTokens`: a row of tokens that reads as a query without an error spells it.
* `parseQuery_eq_some_iff`: a text reads as a query without an error exactly when its tokens spell the query.
-/

open KanjiSearch.Lexer (AllLexical)

namespace KanjiSearch.Parser

/-- Without faults, the tokens that were taken from `ts` are a `P` of the query. -/
def Accepts (P : List Token → Query → Prop) (ts : List Token) (r : Reading) : Prop :=
  ∀ q, r.query = some q → r.errors = [] → ∃ us, ts = us ++ r.rest ∧ P us q

/-- Without a query there is a fault. -/
def Reports (r : Reading) : Prop :=
  r.query = none → r.errors ≠ []

variable {stop : Token}

section Combining

variable {P Q : List Token → Query → Prop} {t : Token} {ts us rest : List Token} {q : Query} {r next : Reading}

theorem accepts_of_errors (h : r.errors ≠ []) : Accepts P ts r :=
  fun _ _ he => absurd he h

theorem accepts_of_none (h : r.query = none) : Accepts P ts r := by
  intro q hq
  rw [h] at hq
  cases hq

theorem accepts_query (us : List Token) (h : P us q) : Accepts P (us ++ rest) ⟨some q, rest, []⟩ := by
  rintro _ ⟨⟩ -
  exact ⟨us, rfl, h⟩

theorem reports_query (he : r.query = some q) : Reports r := by
  intro h
  rw [he] at h
  cases h

theorem Accepts.mono (h : Accepts P ts r) (hPQ : ∀ us q, P us q → Q us q) : Accepts Q ts r := by
  intro q hq he
  obtain ⟨us, hts, hus⟩ := h q hq he
  exact ⟨us, hts, hPQ us q hus⟩

theorem Accepts.cons (h : Accepts (fun us => P (t :: us)) ts r) : Accepts P (t :: ts) r := by
  intro q hq he
  obtain ⟨us, hts, hus⟩ := h q hq he
  exact ⟨t :: us, by rw [hts, List.cons_append], hus⟩

/-- One rule after another, the second behind the tokens that the first took. -/
theorem Accepts.andThen (h : Accepts P ts r) (hreports : Reports r)
    (hnext : ∀ us q, r.query = some q → P us q → Accepts (fun vs => Q (us ++ vs)) r.rest next) :
    Accepts Q ts (next.after r.errors) := by
  intro q hq he
  obtain ⟨he, hnextErrors⟩ := List.append_eq_nil_iff.mp he
  cases hr : r.query with
  | none => exact absurd he (hreports hr)
  | some q' =>
    obtain ⟨us, hts, hus⟩ := h q' hr he
    obtain ⟨vs, hrest, hvs⟩ := hnext us q' hr hus q hq hnextErrors
    exact ⟨us ++ vs, by rw [hts, hrest, List.append_assoc]; rfl, hvs⟩

/-- The same when the first rule has made the query `q`. -/
theorem Accepts.andThen_some (h : Accepts P ts r) (hq : r.query = some q)
    (hnext : ∀ us, P us q → Accepts (fun vs => Q (us ++ vs)) r.rest next) : Accepts Q ts (next.after r.errors) := by
  refine h.andThen (reports_query hq) fun us q' hq' hus => ?_
  obtain rfl : q = q' := Option.some.inj (hq.symm.trans hq')
  exact hnext us hus

theorem errors_unlessReported (fault : Fault) (r : Reading) : r.errors ++ unlessReported stop fault r ≠ [] := by
  unfold unlessReported
  cases r.errors <;> simp

end Combining

/-! ## Values of fields -/

/-- Both halves, for rules that always start to read. -/
structure Reads (P : List Token → Query → Prop) (ts : List Token) (r : Reading) : Prop where
  accepts : Accepts P ts r
  reports : Reports r

section Values

variable {P : List Token → Query → Prop}

theorem Reads.error {ts rest : List Token} {e : SyntaxError} : Reads P ts ⟨none, rest, [e]⟩ :=
  ⟨accepts_of_errors (List.cons_ne_nil _ _), fun _ => List.cons_ne_nil _ _⟩

theorem Reads.query (us : List Token) {rest : List Token} {q : Query} (h : P us q) :
    Reads P (us ++ rest) ⟨some q, rest, []⟩ :=
  ⟨accepts_query us h, reports_query rfl⟩

theorem textValue_reads (f : Field) (spelling : String) (ts : List Token) :
    Reads (FieldTest f) ts (textValue stop f spelling ts) := by
  unfold textValue
  split
  · exact .error
  · next t rest =>
    split
    · next ht => exact .query [t] (.text ht)
    · next ht => exact .query [t] (.quoted ht)
    · exact .error

theorem withNumber_reads {t : Token} {digits : List Char} {ts rest : List Token} {use : UInt64 → Reading}
    (h : ∀ n, Text.count? digits = some n → Reads P ts (use n)) : Reads P ts (withNumber t digits rest use) := by
  unfold withNumber
  split
  · next hn => exact h _ hn
  · exact .error

theorem comparedFrequency_reads {o : Token} {op : Comparison} (ho : comparison? o.kind = some op) {ts : List Token}
    (hts : AllLexical ts) : Reads (FieldTest .frequency) (o :: ts) (comparedFrequency stop op ts) := by
  unfold comparedFrequency
  split
  · exact .error
  · next t rest =>
    split
    · next ht =>
      have hnumber := (hts t List.mem_cons_self).isNumber ht
      exact withNumber_reads fun n hn =>
        .query [o, t] (.comparison rfl ho ht ((Text.count?_eq_some_iff hnumber).mp hn))
    · exact .error

theorem comparedLevel_reads {o : Token} {op : Comparison} (ho : comparison? o.kind = some op) (ts : List Token) :
    Reads (FieldTest .jlptLevel) (o :: ts) (comparedLevel stop op ts) := by
  unfold comparedLevel
  split
  · exact .error
  · next t rest =>
    split
    · next ht =>
      split
      · next hr => exact .query [o, t] (.level rfl ho ht hr)
      · exact .error
    · exact .error

theorem rangeValue_reads {t : Token} (hlexical : Lexer.Lexical t) (ht : t.kind = .range) (rest : List Token) :
    Reads (FieldTest .frequency) (t :: rest) (rangeValue .frequency t rest) := by
  obtain ⟨low, high, hvalue, hlow, hhigh⟩ := hlexical.isSpan ht
  have hdash := Text.splitOnce_append (Text.not_mem_of_isNumber hlow (by decide : '-'.isDigit = false)) high
  simp only [rangeValue, hvalue, hdash]
  refine withNumber_reads fun min hmin => withNumber_reads fun max hmax => .query [t] (.range rfl ht hvalue ?_ ?_)
  · exact (Text.count?_eq_some_iff hlow).mp hmin
  · exact (Text.count?_eq_some_iff hhigh).mp hmax

theorem fieldValue_reads (f : Field) (spelling : String) {ts : List Token} (hts : AllLexical ts) :
    Reads (FieldTest f) ts (fieldValue stop f spelling ts) := by
  unfold fieldValue
  split
  · exact textValue_reads ..
  · next t rest =>
    split
    · next ho => exact comparedFrequency_reads ho hts.tail
    · next ho => exact comparedLevel_reads ho rest
    · split
      · next ht => exact rangeValue_reads (hts t List.mem_cons_self) ht rest
      · next ht =>
        have hnumber := (hts t List.mem_cons_self).isNumber ht
        exact withNumber_reads fun n hn => .query [t] (.number rfl ht ((Text.count?_eq_some_iff hnumber).mp hn))
      · exact textValue_reads ..
    · exact textValue_reads ..

end Values

/-! ## Operands and their rows -/

/-- The spellings at a layer of queries in which at most `room` groups nest. -/
def Within (layer : Layer) (room : Nat) (ts : List Token) (q : Query) : Prop :=
  Spells layer ts q ∧ q.nesting ≤ room

/-- The rest of a group behind its opening parenthesis. -/
def Closes (room : Nat) (ts : List Token) (q : Query) : Prop :=
  ∃ us c inner, ts = us ++ [c] ∧ c.kind = .closeParen ∧ q = .group inner ∧ Spells .disjunction us inner ∧
    inner.nesting < room

section Rules

variable {group : Token → Reader} {room : Nat}
  (haccepts : ∀ t ts, AllLexical ts → Accepts (Closes room) ts ((group t).read ts))
  (hreports : ∀ t ts, Reports ((group t).read ts))

include hreports in
theorem primary_reports {t : Token} {ts : List Token} (hts : AllLexical ts) (ht : startsOperand t.kind = true)
    (hnot : t.kind ≠ .not) : Reports (primary stop group (t :: ts)) := by
  cases hk : t.kind <;> simp only [hk, startsOperand, ne_eq, not_true_eq_false, reduceCtorEq] at ht hnot
  all_goals simp only [primary, hk]
  case openParen => exact hreports t ts
  case field f => exact (fieldValue_reads f t.value hts).reports
  case text | quoted => exact reports_query rfl
  case unknownField | error => exact fun _ => List.cons_ne_nil _ _

theorem negation_reports (r : Reading) : Reports (negation stop r) := by
  unfold negation
  split
  · exact reports_query rfl
  · exact fun _ => errors_unlessReported _ _

include hreports in
theorem operand_reports {t : Token} {ts : List Token} (hts : AllLexical ts) (ht : startsOperand t.kind = true) :
    Reports (operand stop group (t :: ts)) := by
  unfold operand
  simp only
  split
  · exact negation_reports _
  · next hnot => exact primary_reports hreports hts ht hnot

include haccepts

theorem primary_accepts {ts : List Token} (hts : AllLexical ts) :
    Accepts (Within .primary room) ts (primary stop group ts) := by
  unfold primary
  split
  · exact accepts_of_none rfl
  · next t rest =>
    split
    · next ht =>
      refine ((haccepts t rest hts.tail).mono ?_).cons
      rintro _ _ ⟨us, c, inner, rfl, hc, rfl, hinner, hroom⟩
      exact ⟨.group ht hinner hc, hroom⟩
    · next f ht =>
      refine ((fieldValue_reads f t.value hts.tail).accepts.mono ?_).cons
      exact fun us q h => ⟨.field ht h, by rw [h.nesting]; exact Nat.zero_le room⟩
    · exact accepts_of_none rfl
    · next ht => exact accepts_query [t] ⟨.text ht, Nat.zero_le room⟩
    · next ht => exact accepts_query [t] ⟨.quoted ht, Nat.zero_le room⟩
    · exact accepts_of_none rfl
    · exact accepts_of_none rfl

theorem operand_accepts {ts : List Token} (hts : AllLexical ts) :
    Accepts (Within .operand room) ts (operand stop group ts) := by
  unfold operand
  split
  · exact accepts_of_none rfl
  · next t rest =>
    split
    · next ht =>
      unfold negation
      split
      · next inner hinner =>
        rintro _ ⟨⟩ he
        obtain ⟨us, hrest, hus, hroom⟩ := primary_accepts haccepts hts.tail inner hinner he
        exact ⟨t :: us, by rw [List.cons_append, ← hrest], .not ht hus, hroom⟩
      · exact accepts_of_none rfl
    · exact (primary_accepts haccepts hts).mono fun us q h => ⟨.primary h.1, h.2⟩

include hreports

theorem conjunctsFrom_accepts (left : Query) (ts : List Token) :
    ∀ us, Within .conjunction room us left → AllLexical ts →
    Accepts (fun vs => Within .conjunction room (us ++ vs)) ts (conjunctsFrom stop group left ts) := by
  fun_induction conjunctsFrom stop group left ts with
  | case1 left => exact fun us hleft _ => accepts_query [] (by simpa using hleft)
  | case2 left o rest ho r right hright ih =>
    intro us hleft hts
    have hread : Accepts (Within .operand room) rest r := operand_accepts haccepts hts.tail
    refine (hread.andThen_some hright fun vs hvs => ?_).cons
    have hnext : Within .conjunction room (us ++ o :: vs) (.and left right) :=
      ⟨.and hleft.1 ho hvs.1, Nat.max_le.mpr ⟨hleft.2, hvs.2⟩⟩
    simpa using ih _ hnext (hts.tail.suffix (operand_rest ..))
  | case3 left o rest ho r hnone => exact fun _ _ _ => accepts_of_errors (errors_unlessReported _ _)
  | case4 left o rest hand ho r ih =>
    intro us hleft hts
    refine (operand_accepts haccepts hts).andThen (operand_reports hreports hts.tail ho) ?_
    intro vs right hright hvs
    have hnext : Within .conjunction room (us ++ vs) (.and left right) :=
      ⟨.adjacent hleft.1 hvs.1, Nat.max_le.mpr ⟨hleft.2, hvs.2⟩⟩
    have hjoin : andMaybe left r.query = .and left right := by rw [hright]; rfl
    simpa [hjoin] using ih (us ++ vs) (by rwa [hjoin]) (hts.suffix (operand_rest ..))
  | case5 left o rest => exact fun us hleft _ => accepts_query [] (by simpa using hleft)

theorem conjunction_accepts {ts : List Token} (hts : AllLexical ts) :
    Accepts (Within .conjunction room) ts (conjunction stop group ts) := by
  unfold conjunction
  simp only
  split
  · next left hleft =>
    refine (operand_accepts haccepts hts).andThen_some hleft fun us hus => ?_
    exact conjunctsFrom_accepts haccepts hreports left _ us ⟨.operand hus.1, hus.2⟩ (hts.suffix (operand_rest ..))
  · next hnone => exact accepts_of_none hnone

theorem disjunctsFrom_accepts (left : Query) (ts : List Token) :
    ∀ us, Within .disjunction room us left → AllLexical ts →
    Accepts (fun vs => Within .disjunction room (us ++ vs)) ts (disjunctsFrom stop group left ts) := by
  fun_induction disjunctsFrom stop group left ts with
  | case1 left => exact fun us hleft _ => accepts_query [] (by simpa using hleft)
  | case2 left o rest ho r right hright ih =>
    intro us hleft hts
    have hread : Accepts (Within .conjunction room) rest r := conjunction_accepts haccepts hreports hts.tail
    refine (hread.andThen_some hright fun vs hvs => ?_).cons
    have hnext : Within .disjunction room (us ++ o :: vs) (.or left right) :=
      ⟨.or hleft.1 ho hvs.1, Nat.max_le.mpr ⟨hleft.2, hvs.2⟩⟩
    simpa using ih _ hnext (hts.tail.suffix (conjunction_rest ..))
  | case3 left o rest ho r hnone => exact fun _ _ _ => accepts_of_errors (errors_unlessReported _ _)
  | case4 left o rest => exact fun us hleft _ => accepts_query [] (by simpa using hleft)

theorem disjunction_accepts {ts : List Token} (hts : AllLexical ts) :
    Accepts (Within .disjunction room) ts (disjunction stop group ts) := by
  unfold disjunction
  simp only
  split
  · next left hleft =>
    refine (conjunction_accepts haccepts hreports hts).andThen_some hleft fun us hus => ?_
    exact disjunctsFrom_accepts haccepts hreports left _ us ⟨.conjunction hus.1, hus.2⟩
      (hts.suffix (conjunction_rest ..))
  · next hnone => exact accepts_of_none hnone

end Rules

/-! ## Parentheses -/

theorem insideErrors_ne_nil {r : Reading} (h : r.query = none) : insideErrors stop r ≠ [] := by
  simpa [insideErrors, h] using errors_unlessReported .emptyGroup r

/-- A group without an end is a fault. -/
theorem closeErrors_ne_nil (r : Reading) : insideErrors stop r ++ unclosedErrors stop r ≠ [] := by
  intro h
  obtain ⟨hinside, hunclosed⟩ := List.append_eq_nil_iff.mp h
  have hr : r.errors = [] := (List.append_eq_nil_iff.mp hinside).1
  simp [unclosedErrors, Reading.isCut, hr] at hunclosed

theorem closeGroup_reports (r : Reading) : Reports (closeGroup stop r) := by
  unfold closeGroup
  split
  · exact fun _ => closeErrors_ne_nil r
  · split
    · exact fun h => insideErrors_ne_nil (Option.map_eq_none_iff.mp h)
    · exact fun _ => closeErrors_ne_nil r

theorem closeGroup_accepts {room : Nat} {ts : List Token} {r : Reading} (h : Accepts (Within .disjunction room) ts r) :
    Accepts (Closes (room + 1)) ts (closeGroup stop r) := by
  unfold closeGroup
  split
  · exact accepts_of_errors (closeErrors_ne_nil r)
  · next c rest hrest =>
    split
    · next hc =>
      intro q hq he
      obtain ⟨inner, hinner, rfl⟩ := Option.map_eq_some_iff.mp hq
      obtain ⟨us, hts, hus, hroom⟩ := h inner hinner (List.append_eq_nil_iff.mp he).1
      refine ⟨us ++ [c], by rw [hts, hrest, List.append_assoc]; rfl, ?_⟩
      exact ⟨us, c, inner, rfl, hc, rfl, hus, Nat.lt_succ_of_le hroom⟩
    · exact accepts_of_errors (closeErrors_ne_nil r)

theorem groupBody_reports (inside : Reader) (ts : List Token) : Reports (groupBody stop inside ts) := by
  unfold groupBody
  split
  · exact closeGroup_reports _
  · split
    · exact fun _ => List.cons_ne_nil _ _
    · exact closeGroup_reports _

theorem groupReader_reports (room : Nat) (t : Token) (ts : List Token) :
    Reports ((groupReader stop room t).read ts) := by
  cases room with
  | zero => exact fun _ => List.cons_ne_nil _ _
  | succ room => exact groupBody_reports _ ts

theorem groupReader_accepts (room : Nat) (t : Token) (ts : List Token) (hts : AllLexical ts) :
    Accepts (Closes room) ts ((groupReader stop room t).read ts) := by
  induction room generalizing t ts with
  | zero => exact accepts_of_errors (List.cons_ne_nil _ _)
  | succ room ih =>
    have hinside : Accepts (Within .disjunction room) ts ((expression stop room).read ts) := by
      rw [expression_read]
      exact disjunction_accepts ih (groupReader_reports room) hts
    rw [groupReader_succ]
    unfold groupBody
    split
    · exact closeGroup_accepts hinside
    · split
      · exact accepts_of_errors (List.cons_ne_nil _ _)
      · exact closeGroup_accepts hinside

end KanjiSearch.Parser

open KanjiSearch.Parser

namespace KanjiSearch

/-! ## Whole queries -/

/-- **What reads as a query without an error spells this query**, and its groups nest at most as deep as groups may. -/
theorem spells_of_parseTokens {ts : List Token} {q : Query} (hts : AllLexical (tokensBeforeEnd ts))
    (h : parseTokens ts = ⟨some q, []⟩) : Spells .disjunction (tokensBeforeEnd ts) q ∧ q.nesting ≤ maxNesting := by
  rw [parseTokens_eq] at h
  unfold parseUpTo at h
  split at h
  · cases h
  · next t rest heq =>
    rw [heq] at hts
    have hread : Accepts (Within .disjunction maxNesting) (t :: rest)
        ((expression (endToken ts) maxNesting).read (t :: rest)) := by
      rw [expression_read]
      exact disjunction_accepts (groupReader_accepts maxNesting) (groupReader_reports maxNesting) hts
    generalize (expression (endToken ts) maxNesting).read (t :: rest) = r at h hread
    simp only at h
    split at h
    · exact absurd (Parse.mk.inj h).2 (List.cons_ne_nil _ _)
    · next hrest =>
      obtain ⟨hq, he⟩ := Parse.mk.inj h
      obtain ⟨us, hus, hspells⟩ := hread q hq he
      have hdone : r.rest = [] := by
        cases hr : r.rest with
        | nil => rfl
        | cons next more => exact absurd he (hrest next more hr)
      rw [heq, hus, hdone, List.append_nil]
      exact hspells

/-- **The parser accepts exactly its grammar, and builds the query that the grammar gives.** -/
theorem parseQuery_eq_some_iff (query : String) (q : Query) :
    parseQuery query = ⟨some q, []⟩ ↔
      Spells .disjunction (tokensBeforeEnd (tokenize query)) q ∧ q.nesting ≤ maxNesting :=
  ⟨spells_of_parseTokens (allLexical_tokenize query), fun ⟨h, hn⟩ => parseTokens_of_spells h hn⟩

end KanjiSearch
