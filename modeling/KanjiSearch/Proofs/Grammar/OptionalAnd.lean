import KanjiSearch.Proofs.Grammar.Following
import KanjiSearch.Proofs.Grammar.Soundness

/-!
# The sign of a conjunction may be left out

Operands that stand side by side are joined like those with `&` between them. So a row of tokens that reads without an
error may lose any of these signs (`Thinned`): behind each of them stands an operand, which is found as well without it.
Two readings run side by side here, of a row and of a thinned one. As long as the first meets no fault, the second makes
the same query, meets none either, and leaves a thinned row (`Reading.Thins`).

* `operand_thins`, `conjunctsFrom_thins`, `disjunction_thins`: the rules, given this of what follows an opening
  parenthesis.
* `groupReader_thins`: what follows an opening parenthesis, by induction on the room for groups.
* `parseTokens_of_thinned`: whole rows of tokens.
-/

namespace KanjiSearch

/-- The second row is the first one without some of its tokens for `&`. -/
inductive Thinned : List Token → List Token → Prop
  | nil : Thinned [] []
  | keep {t ts us} : Thinned ts us → Thinned (t :: ts) (t :: us)
  | drop {t ts us} : t.kind = .and → Thinned ts us → Thinned (t :: ts) us

/-- A token of another kind stays. -/
theorem Thinned.exists_cons {t : Token} {ts us : List Token} (h : Thinned (t :: ts) us) (ht : t.kind ≠ .and) :
    ∃ vs, us = t :: vs ∧ Thinned ts vs := by
  cases h with
  | keep h => exact ⟨_, rfl, h⟩
  | drop hand => exact absurd hand ht

theorem Thinned.exists_append {taken rest us : List Token} (h : Thinned (taken ++ rest) us)
    (htaken : ∀ t ∈ taken, t.kind ≠ .and) : ∃ vs, us = taken ++ vs ∧ Thinned rest vs := by
  induction taken generalizing us with
  | nil => exact ⟨us, rfl, h⟩
  | cons t taken ih =>
    rw [List.forall_mem_cons] at htaken
    obtain ⟨vs, rfl, hvs⟩ := h.exists_cons htaken.1
    obtain ⟨ws, rfl, hws⟩ := ih hvs htaken.2
    exact ⟨ws, rfl, hws⟩

theorem thinned_nil {us : List Token} (h : Thinned [] us) : us = [] := by
  cases h
  rfl

/-- Any choice of tokens for `&` may be left out. -/
theorem thinned_filter {ts : List Token} {p : Token → Bool} (h : ∀ t ∈ ts, p t = false → t.kind = .and) :
    Thinned ts (ts.filter p) := by
  induction ts with
  | nil => exact .nil
  | cons t ts ih =>
    rw [List.forall_mem_cons] at h
    cases hp : p t with
    | true =>
      rw [List.filter_cons_of_pos hp]
      exact .keep (ih h.2)
    | false =>
      rw [List.filter_cons_of_neg (by simp [hp])]
      exact .drop (h.1 hp) (ih h.2)

namespace Parser

/-- A reading without faults that made the same query as `r` and left a row that is thinned. -/
structure Reading.Thins (r s : Reading) : Prop where
  query : s.query = r.query
  errors : s.errors = []
  rest : Thinned r.rest s.rest

variable {stop stop' t : Token} {ts us rest : List Token} {f : Field} {q : Query} {r s next next' : Reading}

theorem Reading.Thins.after (h : next.Thins next') (es : List SyntaxError) : (next.after es).Thins next' :=
  ⟨h.query, h.errors, h.rest⟩

/-! ## Values of fields -/

theorem FieldTokens.kind_ne_and (h : FieldTokens f ts q) : ∀ t ∈ ts, t.kind ≠ .and := by
  have hop : ∀ {kind : TokenKind} {op : Comparison}, comparison? kind = some op → kind ≠ .and := by
    rintro _ _ ho rfl
    cases ho
  cases h with
  | text ht | quoted ht | number _ ht | range _ ht => simp [ht]
  | comparison _ ho ht | level _ ho ht => simp [ht, hop ho]

theorem fieldValue_of_dashless (ht : t.kind = .range) (hdash : '-' ∉ t.value.toList) (spelling : String)
    (rest : List Token) : fieldValue stop .frequency spelling (t :: rest) = ⟨none, rest, []⟩ := by
  simp [fieldValue, comparison?, ht, rangeValue, Text.splitOnce_eq_none hdash]

theorem fieldValue_thins (spelling : String) (h : Thinned ts us) (he : (fieldValue stop f spelling ts).errors = []) :
    (fieldValue stop f spelling ts).Thins (fieldValue stop' f spelling us) := by
  have htakes : Takes stop f ts (fieldValue stop f spelling ts) := fieldValue_takes f spelling ts
  generalize fieldValue stop f spelling ts = r at htakes he
  cases htakes with
  | test hv =>
    obtain ⟨vs, rfl, hvs⟩ := h.exists_append hv.kind_ne_and
    rw [fieldValue_of_fieldTokens hv]
    exact ⟨rfl, rfl, hvs⟩
  | dashless hf ht hdash =>
    subst hf
    obtain ⟨vs, rfl, hvs⟩ := h.exists_cons (by simp [ht])
    rw [fieldValue_of_dashless ht hdash]
    exact ⟨rfl, rfl, hvs⟩
  | missing | refused => cases he

/-! ## Operands and their rows -/

/-- The row does not start with `&`. -/
def NoAnd (ts : List Token) : Prop :=
  ∀ t, ts.head? = some t → t.kind ≠ .and

/-- A primary does not start with `&`. -/
theorem noAnd_of_primary {group : Token → Reader} (hq : (primary stop group ts).query = some q) : NoAnd ts := by
  rintro t ht hand
  obtain ⟨rest, rfl⟩ := List.head?_eq_some_iff.mp ht
  simp [primary, hand] at hq

/-- What makes a query starts with a token that starts operands. -/
theorem starts_of_operand {group : Token → Reader} (hq : (operand stop group ts).query = some q) :
    ∃ t rest, ts = t :: rest ∧ startsOperand t.kind = true := by
  cases ts with
  | nil => cases hq
  | cons t rest =>
    cases ht : startsOperand t.kind with
    | true => exact ⟨t, rest, rfl, ht⟩
    | false =>
      rw [operand_of_not_starts ht] at hq
      cases hq

theorem noAnd_of_starts (ht : startsOperand t.kind = true) (rest : List Token) : NoAnd (t :: rest) := by
  rintro _ ⟨⟩ hand
  rw [hand] at ht
  cases ht

/-- A row of conjuncts goes on as long as it can. -/
theorem conjunctsFrom_stops {group : Token → Reader} (left : Query) (ts : List Token) :
    (conjunctsFrom stop group left ts).errors = [] → Stops (conjunctsFrom stop group left ts).rest := by
  fun_induction conjunctsFrom stop group left ts with
  | case1 => exact fun _ => stops_nil
  | case2 left t rest ht r right hright ih => exact fun he => ih (List.append_eq_nil_iff.mp he).2
  | case3 left t rest ht r hnone => exact fun he => absurd he (errors_unlessReported _ _)
  | case4 left t rest hand ht r ih => exact fun he => ih (List.append_eq_nil_iff.mp he).2
  | case5 left t rest hand ht =>
    rintro - _ ⟨⟩
    exact ⟨hand, by simpa using ht⟩

section Rules

variable {group group' : Token → Reader}
  (hgroup : ∀ t ts us, Thinned ts us → ((group t).read ts).errors = [] →
    ((group t).read ts).Thins ((group' t).read us))

include hgroup

theorem primary_thins (h : Thinned ts us) (hstart : NoAnd ts) (he : (primary stop group ts).errors = []) :
    (primary stop group ts).Thins (primary stop' group' us) := by
  cases ts with
  | nil =>
    obtain rfl := thinned_nil h
    exact ⟨rfl, rfl, .nil⟩
  | cons t rest =>
    obtain ⟨vs, rfl, hvs⟩ := h.exists_cons (hstart t rfl)
    revert he
    simp only [primary]
    split
    · exact hgroup t rest vs hvs
    · exact fieldValue_thins _ hvs
    · exact fun he => absurd he (List.cons_ne_nil _ _)
    · exact fun _ => ⟨rfl, rfl, hvs⟩
    · exact fun _ => ⟨rfl, rfl, hvs⟩
    · exact fun he => absurd he (List.cons_ne_nil _ _)
    · exact fun _ => ⟨rfl, rfl, .keep hvs⟩

/-- Behind a negation stands a primary, or there is a fault. -/
theorem negation_thins (h : Thinned ts us) (he : (negation stop (primary stop group ts)).errors = []) :
    (negation stop (primary stop group ts)).Thins (negation stop' (primary stop' group' us)) := by
  unfold negation at he ⊢
  cases hq : (primary stop group ts).query with
  | none =>
    simp only [hq] at he
    exact absurd he (errors_unlessReported _ _)
  | some q =>
    simp only [hq] at he ⊢
    have hread : (primary stop group ts).Thins (primary stop' group' us) :=
      primary_thins hgroup h (noAnd_of_primary hq) he
    simp only [hread.query, hq]
    exact ⟨rfl, hread.errors, hread.rest⟩

theorem operand_thins (h : Thinned ts us) (hstart : NoAnd ts) (he : (operand stop group ts).errors = []) :
    (operand stop group ts).Thins (operand stop' group' us) := by
  cases ts with
  | nil =>
    obtain rfl := thinned_nil h
    exact ⟨rfl, rfl, .nil⟩
  | cons t rest =>
    obtain ⟨vs, rfl, hvs⟩ := h.exists_cons (hstart t rfl)
    revert he
    simp only [operand]
    split
    · exact negation_thins hgroup hvs
    · exact primary_thins hgroup h hstart

theorem conjunctsFrom_thins (left : Query) (ts : List Token) : ∀ us, Thinned ts us →
    (conjunctsFrom stop group left ts).errors = [] →
    (conjunctsFrom stop group left ts).Thins (conjunctsFrom stop' group' left us) := by
  fun_induction conjunctsFrom stop group left ts with
  | case1 left =>
    rintro us h -
    obtain rfl := thinned_nil h
    rw [conjunctsFrom_nil]
    exact ⟨rfl, rfl, .nil⟩
  | case2 left t rest ht r right hright ih =>
    intro us h he
    obtain ⟨hfirst, hmore⟩ := List.append_eq_nil_iff.mp he
    obtain ⟨o, others, rfl, ho⟩ := starts_of_operand hright
    have hstart := noAnd_of_starts ho others
    cases h with
    | @keep _ _ vs h =>
      have hread : r.Thins (operand stop' group' vs) := operand_thins hgroup h hstart hfirst
      rw [conjunctsFrom_and_some group' ht rfl (hread.query.trans hright), hread.errors, after_nil]
      exact (ih _ hread.rest hmore).after r.errors
    | drop _ h =>
      have hread : r.Thins (operand stop' group' us) := operand_thins hgroup h hstart hfirst
      obtain ⟨vs, rfl, -⟩ := h.exists_cons (hstart o rfl)
      rw [conjunctsFrom_operand group' ho rfl, hread.query, hright, hread.errors, after_nil]
      exact (ih _ hread.rest hmore).after r.errors
  | case3 left t rest ht r hnone => exact fun us h he => absurd he (errors_unlessReported _ _)
  | case4 left t rest hand ht r ih =>
    intro us h he
    obtain ⟨hfirst, hmore⟩ := List.append_eq_nil_iff.mp he
    have hstart : NoAnd (t :: rest) := noAnd_of_starts ht rest
    have hread : r.Thins (operand stop' group' us) := operand_thins hgroup h hstart hfirst
    obtain ⟨vs, rfl, -⟩ := h.exists_cons hand
    rw [conjunctsFrom_operand group' ht rfl, hread.query, hread.errors, after_nil]
    exact (ih _ hread.rest hmore).after r.errors
  | case5 left t rest hand ht =>
    rintro us h -
    obtain ⟨vs, rfl, hvs⟩ := h.exists_cons hand
    rw [conjunctsFrom, if_neg hand, dif_neg ht]
    exact ⟨rfl, rfl, .keep hvs⟩

theorem conjunction_thins (h : Thinned ts us) (he : (conjunction stop group ts).errors = [])
    (hq : (conjunction stop group ts).query = some q) :
    (conjunction stop group ts).Thins (conjunction stop' group' us) ∧ Stops (conjunction stop group ts).rest := by
  unfold conjunction at he hq ⊢
  cases hleft : (operand stop group ts).query with
  | none =>
    simp only [hleft] at hq
    cases hq
  | some left =>
    simp only [hleft] at he ⊢
    obtain ⟨hfirst, hmore⟩ := List.append_eq_nil_iff.mp he
    obtain ⟨o, others, rfl, ho⟩ := starts_of_operand hleft
    have hread : (operand stop group (o :: others)).Thins (operand stop' group' us) :=
      operand_thins hgroup h (noAnd_of_starts ho others) hfirst
    simp only [hread.query, hleft, hread.errors, after_nil]
    exact ⟨(conjunctsFrom_thins hgroup left _ _ hread.rest hmore).after _, conjunctsFrom_stops left _ hmore⟩

theorem disjunctsFrom_thins (left : Query) (ts : List Token) : ∀ us, Thinned ts us → Stops ts →
    (disjunctsFrom stop group left ts).errors = [] →
    (disjunctsFrom stop group left ts).Thins (disjunctsFrom stop' group' left us) := by
  fun_induction disjunctsFrom stop group left ts with
  | case1 left =>
    rintro us h - -
    obtain rfl := thinned_nil h
    rw [disjunctsFrom_nil]
    exact ⟨rfl, rfl, .nil⟩
  | case2 left t rest ht r right hright ih =>
    intro us h _ he
    obtain ⟨hfirst, hmore⟩ := List.append_eq_nil_iff.mp he
    obtain ⟨vs, rfl, hvs⟩ := h.exists_cons (by simp [ht])
    obtain ⟨hread, hstops⟩ : r.Thins (conjunction stop' group' vs) ∧ Stops r.rest :=
      conjunction_thins hgroup hvs hfirst hright
    rw [disjunctsFrom_or_some group' ht rfl (hread.query.trans hright), hread.errors, after_nil]
    exact (ih _ hread.rest hstops hmore).after r.errors
  | case3 left t rest ht r hnone => exact fun us h _ he => absurd he (errors_unlessReported _ _)
  | case4 left t rest ht =>
    rintro us h hstops -
    obtain ⟨vs, rfl, hvs⟩ := h.exists_cons (hstops t rfl).1
    rw [disjunctsFrom, if_neg ht]
    exact ⟨rfl, rfl, .keep hvs⟩

theorem disjunction_thins (h : Thinned ts us) (he : (disjunction stop group ts).errors = [])
    (hq : (disjunction stop group ts).query = some q) :
    (disjunction stop group ts).Thins (disjunction stop' group' us) := by
  unfold disjunction at he hq ⊢
  cases hleft : (conjunction stop group ts).query with
  | none =>
    simp only [hleft] at hq
    cases hq
  | some left =>
    simp only [hleft] at he ⊢
    obtain ⟨hfirst, hmore⟩ := List.append_eq_nil_iff.mp he
    obtain ⟨hread, hstops⟩ : (conjunction stop group ts).Thins (conjunction stop' group' us) ∧
        Stops (conjunction stop group ts).rest := conjunction_thins hgroup h hfirst hleft
    simp only [hread.query, hleft, hread.errors, after_nil]
    exact (disjunctsFrom_thins hgroup left _ _ hread.rest hstops hmore).after _

end Rules

/-! ## Parentheses -/

theorem insideErrors_of_query (he : r.errors = []) (hq : r.query ≠ none) : insideErrors stop r = [] := by
  simp [insideErrors, he, hq]

/-- A group without a fault has an inside without a fault, and an end. -/
theorem closeGroup_thins (hthins : r.errors = [] → r.query ≠ none → r.Thins s)
    (he : (closeGroup stop r).errors = []) : (closeGroup stop r).Thins (closeGroup stop' s) := by
  cases hrest : r.rest with
  | nil =>
    simp only [closeGroup, hrest] at he
    exact absurd he (closeErrors_ne_nil r)
  | cons c more =>
    by_cases hc : c.kind = .closeParen
    · simp only [closeGroup, hrest, if_pos hc] at he ⊢
      have hquery : r.query ≠ none := fun hnone => insideErrors_ne_nil hnone he
      have hread := hthins (List.append_eq_nil_iff.mp he).1 hquery
      have hleft := hread.rest
      rw [hrest] at hleft
      obtain ⟨vs, hvs, hmore⟩ := hleft.exists_cons (by simp [hc])
      simp only [hvs, if_pos hc, hread.query]
      exact ⟨rfl, insideErrors_of_query hread.errors (hread.query ▸ hquery), hmore⟩
    · simp only [closeGroup, hrest, if_neg hc] at he
      exact absurd he (closeErrors_ne_nil r)

/-- Without an inside there is no group. -/
theorem groupBody_of_not_starts (room : Nat) (h : ∀ o, ts.head? = some o → startsOperand o.kind = false) :
    (groupBody stop (expression stop room) ts).query = none := by
  cases ts with
  | nil => simp only [groupBody, closeGroup_query, expression_read]; rfl
  | cons o rest =>
    simp only [groupBody]
    split
    · rfl
    · rw [closeGroup_query, expression_read, disjunction_of_not_starts (h o rfl)]
      rfl

theorem groupReader_thins (room : Nat) (t : Token) (ts us : List Token) (h : Thinned ts us)
    (he : ((groupReader stop room t).read ts).errors = []) :
    ((groupReader stop room t).read ts).Thins ((groupReader stop' room t).read us) := by
  induction room generalizing t ts us with
  | zero => exact absurd he (List.cons_ne_nil _ _)
  | succ room ih =>
    rw [groupReader_succ] at he ⊢
    rw [groupReader_succ]
    cases hquery : (groupBody stop (expression stop room) ts).query with
    | none => exact absurd he (groupBody_reports _ ts hquery)
    | some group =>
      obtain ⟨o, rest, rfl, ho⟩ : ∃ o rest, ts = o :: rest ∧ startsOperand o.kind = true := by
        by_contra hno
        rw [groupBody_of_not_starts room fun o hhead => ?_] at hquery
        · cases hquery
        · obtain ⟨rest, rfl⟩ := List.head?_eq_some_iff.mp hhead
          exact Bool.eq_false_iff.mpr fun ho => hno ⟨o, rest, rfl, ho⟩
      obtain ⟨vs, rfl, -⟩ := h.exists_cons (noAnd_of_starts ho rest o rfl)
      rw [groupBody_of_starts ho] at he ⊢
      rw [groupBody_of_starts ho]
      refine closeGroup_thins (fun hclean hinside => ?_) he
      obtain ⟨q, hq⟩ := Option.ne_none_iff_exists'.mp hinside
      exact disjunction_thins ih h hclean hq

end KanjiSearch.Parser

open KanjiSearch.Parser

namespace KanjiSearch

/-! ## Whole rows of tokens -/

theorem tokensBeforeEnd_thinned {ts us : List Token} (h : Thinned ts us) :
    Thinned (tokensBeforeEnd ts) (tokensBeforeEnd us) := by
  unfold tokensBeforeEnd
  induction h with
  | nil => exact .nil
  | @keep t ts us _ ih =>
    rw [List.takeWhile_cons, List.takeWhile_cons]
    split
    · exact .keep ih
    · exact .nil
  | @drop t ts us ht _ ih =>
    rw [List.takeWhile_cons, if_pos (by simp [ht])]
    exact .drop ht ih

/-- A row of tokens reads as a query without an error if it is a disjunction up to its end. -/
theorem parseTokens_eq_some {ts : List Token} {q : Query} :
    parseTokens ts = ⟨some q, []⟩ ↔
      disjunction (endToken ts) (groupReader (endToken ts) maxNesting) (tokensBeforeEnd ts) = ⟨some q, [], []⟩ := by
  rw [parseTokens_eq]
  unfold parseUpTo
  split
  · next hts => simp [hts, disjunction, conjunction, operand, primary]
  · next t rest hts =>
    rw [hts, expression_read]
    generalize disjunction (endToken ts) (groupReader (endToken ts) maxNesting) (t :: rest) = r
    obtain ⟨query, rest, errors⟩ := r
    cases rest <;> cases errors <;> simp

/-- **The sign of a conjunction may be left out** at any place of a row of tokens without an error. -/
theorem parseTokens_of_thinned {ts us : List Token} {q : Query} (h : Thinned ts us)
    (hq : parseTokens ts = ⟨some q, []⟩) : parseTokens us = ⟨some q, []⟩ := by
  rw [parseTokens_eq_some] at hq ⊢
  have hthins : (disjunction (endToken ts) (groupReader (endToken ts) maxNesting) (tokensBeforeEnd ts)).Thins
      (disjunction (endToken us) (groupReader (endToken us) maxNesting) (tokensBeforeEnd us)) :=
    disjunction_thins (groupReader_thins maxNesting) (tokensBeforeEnd_thinned h) (by rw [hq]) (by rw [hq])
  rw [hq] at hthins
  generalize disjunction (endToken us) (groupReader (endToken us) maxNesting) (tokensBeforeEnd us) = r at hthins ⊢
  obtain ⟨query, rest, errors⟩ := r
  obtain ⟨rfl, rfl, hrest⟩ := hthins
  obtain rfl := thinned_nil hrest
  rfl

/-- Two of three signs are left out, one in a group and one behind it. -/
theorem parseTokens_of_thinned_fire :
    parseTokens ((tokenize "(fire & jlpt:>n3) & freq:>20 & !sun | moon").filter fun t => t.position ∉ [6, 18]) =
      parseTokens (tokenize "(fire & jlpt:>n3) & freq:>20 & !sun | moon") := by
  have hq : parseTokens (tokenize "(fire & jlpt:>n3) & freq:>20 & !sun | moon") =
      ⟨some (.or
        (.and (.and (.group (.and (.search .usual "fire" false) (.compare .greater .jlptLevel 3)))
          (.compare .greater .frequency 20)) (.not (.search .usual "sun" false)))
        (.search .usual "moon" false)), []⟩ := by
    decide +kernel
  rw [hq]
  exact parseTokens_of_thinned (thinned_filter (by decide +kernel)) hq

end KanjiSearch
