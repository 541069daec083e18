import KanjiSearch.Proofs.Grammar.Completeness
import KanjiSearch.Proofs.Lexer.Lexical

/-!
# The queries that are read

Reading makes queries of one shape only (`Query.Canonical`), whatever faults it meets: rows lean to the left, operands
that bind more weakly stand in groups, only two fields hold numbers, and a text has the form of its token.

* `operand_makes`, `disjunction_makes`: the rules make canonical queries of their layers, given this of groups.
* `groupReader_makes`: so do groups, in which one group fewer has room.
* `canonical_of_parseQuery`: every query that is read is canonical, and its groups nest at most as deep as groups may.
-/

open KanjiSearch.Parser KanjiSearch.Lexer

namespace KanjiSearch

/-- The shape of the queries that are read. -/
def Query.Canonical : Query → Prop
  | or left right => left.Canonical ∧ right.Canonical ∧ right.layer ≤ .conjunction
  | and left right => left.Canonical ∧ right.Canonical ∧ left.layer ≤ .conjunction ∧ right.layer ≤ .operand
  | not inner => inner.Canonical ∧ inner.layer ≤ .primary
  | group inner => inner.Canonical
  | compare op f value => f = .frequency ∨ f = .jlptLevel ∧ op ≠ .equal ∧ 1 ≤ value ∧ value ≤ 5
  | range f _ _ => f = .frequency
  | search _ value true => value.toList.getLast? ≠ some '\\'
  | search _ value false => IsWord value.toList ∧ IsPlain value.toList

/-- The canonical queries of a layer in which at most `room` groups nest. -/
structure Query.Fits (layer : Layer) (room : Nat) (q : Query) : Prop where
  canonical : q.Canonical
  layer_le : q.layer ≤ layer
  nesting_le : q.nesting ≤ room

theorem Query.Fits.mono {layer weaker : Layer} {room more : Nat} {q : Query} (h : q.Fits layer room)
    (hlayer : layer ≤ weaker) (hroom : room ≤ more) : q.Fits weaker more :=
  ⟨h.canonical, Layer.le_trans h.layer_le hlayer, h.nesting_le.trans hroom⟩

theorem jlptRank?_bounds {level : String} {rank : UInt64} (h : jlptRank? level = some rank) : 1 ≤ rank ∧ rank ≤ 5 := by
  unfold jlptRank? at h
  split at h <;> cases h <;> decide

end KanjiSearch

namespace KanjiSearch.Parser

theorem fits_text {t : Token} {ts : List Token} (h : AllLexical (t :: ts)) (ht : t.kind = .text) (scope : Scope) :
    (Query.search scope t.value false).Fits .primary 0 := by
  have hlexical := h t List.mem_cons_self
  rw [Lexical, ht] at hlexical
  exact ⟨hlexical, Layer.le_refl _, Nat.le_refl 0⟩

theorem fits_quoted {t : Token} {ts : List Token} (h : AllLexical (t :: ts)) (ht : t.kind = .quoted)
    (scope : Scope) : (Query.search scope t.value true).Fits .primary 0 := by
  have hlexical := h t List.mem_cons_self
  rw [Lexical, ht] at hlexical
  exact ⟨hlexical, Layer.le_refl _, Nat.le_refl 0⟩

/-- If a query was made, it is a `P`. -/
def Makes (P : Query → Prop) (r : Reading) : Prop :=
  ∀ q, r.query = some q → P q

variable {stop : Token} {P Q : Query → Prop}

theorem makes_of_none {r : Reading} (h : r.query = none) : Makes P r := by
  intro q hq
  rw [h] at hq
  cases hq

theorem makes_query {q : Query} {rest : List Token} {errors : List SyntaxError} (h : P q) :
    Makes P ⟨some q, rest, errors⟩ := by
  rintro _ ⟨⟩
  exact h

theorem Makes.mono {r : Reading} (h : Makes P r) (hPQ : ∀ q, P q → Q q) : Makes Q r :=
  fun q hq => hPQ q (h q hq)

/-! ## Values of fields -/

theorem textValue_makes (f : Field) (spelling : String) {ts : List Token} (hts : AllLexical ts) :
    Makes (Query.Fits .primary 0) (textValue stop f spelling ts) := by
  unfold textValue
  split
  · exact makes_of_none rfl
  · split
    · next ht => exact makes_query (fits_text hts ht _)
    · next ht => exact makes_query (fits_quoted hts ht _)
    · exact makes_of_none rfl

theorem withNumber_makes {t : Token} {digits : List Char} {rest : List Token} {use : UInt64 → Reading}
    (h : ∀ n, Makes P (use n)) : Makes P (withNumber t digits rest use) := by
  unfold withNumber
  split
  · exact h _
  · exact makes_of_none rfl

theorem comparedFrequency_makes (op : Comparison) (ts : List Token) :
    Makes (Query.Fits .primary 0) (comparedFrequency stop op ts) := by
  unfold comparedFrequency
  split
  · exact makes_of_none rfl
  · split
    · exact withNumber_makes fun n => makes_query ⟨.inl rfl, Layer.le_refl _, Nat.le_refl 0⟩
    · exact makes_of_none rfl

theorem comparedLevel_makes {kind : TokenKind} {op : Comparison} (hop : comparison? kind = some op) (ts : List Token) :
    Makes (Query.Fits .primary 0) (comparedLevel stop op ts) := by
  have hne : op ≠ .equal := by
    rintro rfl
    cases kind <;> cases hop
  unfold comparedLevel
  split
  · exact makes_of_none rfl
  · split
    · split
      · next hrank => exact makes_query ⟨.inr ⟨rfl, hne, jlptRank?_bounds hrank⟩, Layer.le_refl _, Nat.le_refl 0⟩
      · exact makes_of_none rfl
    · exact makes_of_none rfl

theorem rangeValue_makes (t : Token) (rest : List Token) :
    Makes (Query.Fits .primary 0) (rangeValue .frequency t rest) := by
  unfold rangeValue
  split
  · exact makes_of_none rfl
  · exact withNumber_makes fun min => withNumber_makes fun max => makes_query ⟨rfl, Layer.le_refl _, Nat.le_refl 0⟩

theorem fieldValue_makes (f : Field) (spelling : String) {ts : List Token} (hts : AllLexical ts) :
    Makes (Query.Fits .primary 0) (fieldValue stop f spelling ts) := by
  unfold fieldValue
  split
  · exact textValue_makes f spelling hts
  · split
    · exact comparedFrequency_makes _ _
    · next hop => exact comparedLevel_makes hop _
    · split
      · exact rangeValue_makes _ _
      · exact withNumber_makes fun n => makes_query ⟨.inl rfl, Layer.le_refl _, Nat.le_refl 0⟩
      · exact textValue_makes _ spelling hts
    · exact textValue_makes _ spelling hts

/-! ## Operands and their rows -/

section Rules

variable {group : Token → Reader} {room : Nat}
  (hgroup : ∀ t ts, AllLexical ts → Makes (Query.Fits .primary room) ((group t).read ts))
include hgroup

theorem primary_makes {ts : List Token} (hts : AllLexical ts) :
    Makes (Query.Fits .primary room) (primary stop group ts) := by
  have hleaf : ∀ q : Query, q.Fits .primary 0 → q.Fits .primary room := fun q h =>
    h.mono (Layer.le_refl _) (Nat.zero_le room)
  unfold primary
  split
  · exact makes_of_none rfl
  · next t rest =>
    split
    · exact hgroup t rest hts.tail
    · exact (fieldValue_makes _ _ hts.tail).mono hleaf
    · exact makes_of_none rfl
    · next ht => exact makes_query (hleaf _ (fits_text hts ht _))
    · next ht => exact makes_query (hleaf _ (fits_quoted hts ht _))
    · exact makes_of_none rfl
    · exact makes_of_none rfl

theorem operand_makes {ts : List Token} (hts : AllLexical ts) :
    Makes (Query.Fits .operand room) (operand stop group ts) := by
  unfold operand
  split
  · exact makes_of_none rfl
  · split
    · unfold negation
      split
      · next inner hinner =>
        have hfits := primary_makes hgroup hts.tail inner hinner
        exact makes_query ⟨⟨hfits.canonical, hfits.layer_le⟩, Layer.le_refl _, hfits.nesting_le⟩
      · exact makes_of_none rfl
    · exact (primary_makes hgroup hts).mono fun q h => h.mono (by decide) (Nat.le_refl room)

theorem conjunctsFrom_makes (left : Query) (ts : List Token) : left.Fits .conjunction room → AllLexical ts →
    Makes (Query.Fits .conjunction room) (conjunctsFrom stop group left ts) := by
  have hand : ∀ {left right : Query}, left.Fits .conjunction room → right.Fits .operand room →
      (Query.and left right).Fits .conjunction room := fun hl hr =>
    ⟨⟨hl.canonical, hr.canonical, hl.layer_le, hr.layer_le⟩, Layer.le_refl _,
      Nat.max_le.mpr ⟨hl.nesting_le, hr.nesting_le⟩⟩
  fun_induction conjunctsFrom stop group left ts with
  | case1 left => exact fun hleft _ => makes_query hleft
  | case2 left t rest ht r right hright ih =>
    intro hleft hts
    have hfits : right.Fits .operand room := operand_makes hgroup hts.tail right hright
    exact ih (hand hleft hfits) (hts.tail.suffix (operand_rest ..))
  | case3 left t rest ht r hnone => exact fun hleft _ => makes_query hleft
  | case4 left t rest hne ht r ih =>
    intro hleft hts
    refine ih ?_ (hts.suffix (operand_rest ..))
    cases hr : r.query with
    | none => exact hleft
    | some right => exact hand hleft (operand_makes hgroup hts right hr)
  | case5 left => exact fun hleft _ => makes_query hleft

theorem conjunction_makes {ts : List Token} (hts : AllLexical ts) :
    Makes (Query.Fits .conjunction room) (conjunction stop group ts) := by
  unfold conjunction
  simp only
  split
  · next left hleft =>
    have hfits := operand_makes hgroup hts left hleft
    exact conjunctsFrom_makes hgroup left _ (hfits.mono (by decide) (Nat.le_refl room)) (hts.suffix (operand_rest ..))
  · next hnone => exact makes_of_none hnone

theorem disjunctsFrom_makes (left : Query) (ts : List Token) : left.Fits .disjunction room → AllLexical ts →
    Makes (Query.Fits .disjunction room) (disjunctsFrom stop group left ts) := by
  fun_induction disjunctsFrom stop group left ts with
  | case1 left => exact fun hleft _ => makes_query hleft
  | case2 left t rest ht r right hright ih =>
    intro hleft hts
    have hfits : right.Fits .conjunction room := conjunction_makes hgroup hts.tail right hright
    refine ih ⟨⟨hleft.canonical, hfits.canonical, hfits.layer_le⟩, Layer.le_refl _, ?_⟩
      (hts.tail.suffix (conjunction_rest ..))
    exact Nat.max_le.mpr ⟨hleft.nesting_le, hfits.nesting_le⟩
  | case3 left t rest ht r hnone => exact fun hleft _ => makes_query hleft
  | case4 left => exact fun hleft _ => makes_query hleft

theorem disjunction_makes {ts : List Token} (hts : AllLexical ts) :
    Makes (Query.Fits .disjunction room) (disjunction stop group ts) := by
  unfold disjunction
  simp only
  split
  · next left hleft =>
    have hfits := conjunction_makes hgroup hts left hleft
    exact disjunctsFrom_makes hgroup left _ (hfits.mono (by decide) (Nat.le_refl room))
      (hts.suffix (conjunction_rest ..))
  · next hnone => exact makes_of_none hnone

end Rules

/-! ## Parentheses -/

theorem closeGroup_makes {room : Nat} {r : Reading} (h : Makes (Query.Fits .disjunction room) r) :
    Makes (Query.Fits .primary (room + 1)) (closeGroup stop r) := by
  have hgroup : ∀ q, r.query.map Query.group = some q → q.Fits .primary (room + 1) := by
    intro q hq
    obtain ⟨inner, hinner, rfl⟩ := Option.map_eq_some_iff.mp hq
    have hfits := h inner hinner
    exact ⟨hfits.canonical, Layer.le_refl _, Nat.succ_le_succ hfits.nesting_le⟩
  unfold closeGroup
  split
  · exact hgroup
  · split
    · exact hgroup
    · exact hgroup

theorem groupReader_makes (room : Nat) (t : Token) (ts : List Token) (hts : AllLexical ts) :
    Makes (Query.Fits .primary room) ((groupReader stop room t).read ts) := by
  induction room generalizing t ts with
  | zero => exact makes_of_none rfl
  | succ room ih =>
    have hinside : Makes (Query.Fits .disjunction room) ((expression stop room).read ts) := by
      rw [expression_read]
      exact disjunction_makes ih hts
    rw [groupReader_succ]
    unfold groupBody
    split
    · exact closeGroup_makes hinside
    · split
      · exact makes_of_none rfl
      · exact closeGroup_makes hinside

end KanjiSearch.Parser

namespace KanjiSearch

/-! ## Whole queries -/

theorem fits_of_parseTokens {ts : List Token} {q : Query} (hts : AllLexical (tokensBeforeEnd ts))
    (h : (parseTokens ts).query = some q) : q.Fits .disjunction maxNesting := by
  rw [parseTokens_eq] at h
  unfold parseUpTo at h
  split at h
  · cases h
  · next t rest heq =>
    rw [heq] at hts
    have hread : Makes (Query.Fits .disjunction maxNesting)
        ((expression (endToken ts) maxNesting).read (t :: rest)) := by
      rw [expression_read]
      exact disjunction_makes (groupReader_makes maxNesting) hts
    simp only at h
    split at h
    · exact hread q h
    · exact hread q h

/-- **Every query that is read is canonical**, with or without errors. -/
theorem canonical_of_parseQuery {query : String} {q : Query} (h : (parseQuery query).query = some q) :
    q.Canonical ∧ q.nesting ≤ maxNesting := by
  have hfits := fits_of_parseTokens (allLexical_tokenize query) h
  exact ⟨hfits.canonical, hfits.nesting_le⟩

end KanjiSearch
