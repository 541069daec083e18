import KanjiSearch.Proofs.Grammar.Soundness
import KanjiSearch.Query.Matching

/-!
# Composed queries

A text without errors keeps its tokens inside a larger text, as long as no word goes on at a seam. So the grammar of
tokens is also a grammar of texts (`Writes`): texts of queries are put into parentheses and joined by the signs of a
row.

* `parseQuery_iff_writes`: a text reads as a query without an error exactly when it is one of its texts.
* `Writes.group`, `Writes.not`, `Writes.and`, `Writes.adjacent`, `Writes.or`: the rules for texts.
* `Writes.disjoin`: two disjunctions with `|` between them are one, which leans to the left (`Query.disjoin`).
* `parseQuery_compose`: all of this for texts that read without errors. One group too many is the only error. Without
  parentheses `|` joins texts however deep their groups nest, into a query that matches what one of them matches.
-/

open KanjiSearch.Parser KanjiSearch.Lexer

namespace KanjiSearch

/-! ## Texts of queries -/

/-- The text `cs` spells the query `q` at a layer, wherever it stands. -/
def Writes (layer : Layer) (cs : List Char) (q : Query) : Prop :=
  ∀ position, Spells layer (lexemesFrom position cs) q

theorem lexemesFrom_zero_map (position : Nat) (cs : List Char) :
    lexemesFrom position cs = (lexemesFrom 0 cs).map (moved position) := by
  rw [lexemesFrom, ← Nat.zero_add position, tokensFrom_add, ← List.map_dropLast, Nat.zero_add, lexemesFrom]

theorem writes_of_spells {layer : Layer} {cs : List Char} {q : Query} (h : Spells layer (lexemesFrom 0 cs) q) :
    Writes layer cs q := by
  intro position
  rw [lexemesFrom_zero_map]
  exact h.map (moved_kind position) (moved_value position)

/-- **A text reads as a query without an error exactly when it spells the query**, with groups that do not nest too
deeply. -/
theorem parseQuery_iff_writes {query : String} {q : Query} :
    parseQuery query = ⟨some q, []⟩ ↔ Writes .disjunction query.toList q ∧ q.nesting ≤ maxNesting := by
  constructor
  · intro h
    obtain ⟨hspells, hn⟩ := spells_of_parseTokens (allLexical_tokenize query) h
    rw [tokensBeforeEnd_tokenize] at hspells
    exact ⟨writes_of_spells hspells, hn⟩
  · rintro ⟨h, hn⟩
    refine parseTokens_of_spells ?_ hn
    rw [tokensBeforeEnd_tokenize]
    exact h 0

/-- A text whose groups nest too deeply has this as its only error. -/
theorem parseQuery_of_nesting {query : String} {q : Query} (h : Writes .disjunction query.toList q)
    (hn : maxNesting < q.nesting) : ∃ t, (parseQuery query).errors = [.on .nestedTooDeeply t] := by
  have hspells := h 0
  rw [← tokensBeforeEnd_tokenize] at hspells
  obtain ⟨t, -, he⟩ := parseTokens_of_nesting hspells hn
  exact ⟨t, he⟩

section Joins

variable {layer weaker : Layer} {a b : List Char} {q left right : Query}

theorem Writes.weaken (h : Writes layer a q) (hle : layer ≤ weaker) : Writes weaker a q :=
  fun position => (h position).weaken hle

/-- Texts of queries have no errors. -/
theorem Writes.noError (h : Writes layer a q) (position : Nat) : NoError (tokensFrom position a) := by
  intro t ht
  rw [tokensFrom_eq, List.mem_append, List.mem_singleton] at ht
  rcases ht with ht | rfl
  · exact ((h position).kind_ne t ht).2
  · simp

theorem lexemesFrom_sign {c : Char} {kind : TokenKind} (hc : (c, kind) ∈ signs) (position : Nat) (cs : List Char) :
    lexemesFrom position (c :: cs) = ⟨kind, String.ofList [c], position⟩ :: lexemesFrom (position + 1) cs :=
  lexemesFrom_lexeme (.sign cs hc) position

theorem lexemesFrom_blank (position : Nat) (cs : List Char) :
    lexemesFrom position (' ' :: cs) = lexemesFrom (position + 1) cs :=
  @lexemesFrom_gap [' '] (fun c hc => .inl (by rw [List.mem_singleton.mp hc]; rfl)) position cs

/-- Two texts with a sign and blanks between them. -/
theorem lexemesFrom_between {c : Char} {kind : TokenKind} (hc : (c, kind) ∈ signs) (ha : Writes layer a q)
    (position : Nat) (b : List Char) : lexemesFrom position (a ++ ' ' :: c :: ' ' :: b) =
      lexemesFrom position a ++ ⟨kind, String.ofList [c], position + a.length + 1⟩ ::
        lexemesFrom (position + a.length + 1 + 1 + 1) b := by
  rw [lexemesFrom_append (ha.noError position) (endsWord_cons rfl (by decide) _), lexemesFrom_blank,
    lexemesFrom_sign hc, lexemesFrom_blank]

theorem Writes.group (h : Writes .disjunction a q) : Writes .primary ('(' :: (a ++ [')'])) (.group q) := by
  intro position
  rw [lexemesFrom_sign (by decide : ('(', TokenKind.openParen) ∈ signs),
    lexemesFrom_append (h.noError _) (endsWord_cons rfl (by decide) _),
    lexemesFrom_sign (by decide : (')', TokenKind.closeParen) ∈ signs), lexemesFrom_nil]
  exact .group rfl (h _) rfl

theorem Writes.not (h : Writes .primary a q) : Writes .operand ('!' :: a) (.not q) := by
  intro position
  rw [lexemesFrom_sign (by decide : ('!', TokenKind.not) ∈ signs)]
  exact .not rfl (h _)

theorem Writes.and (hl : Writes .conjunction a left) (hr : Writes .operand b right) :
    Writes .conjunction (a ++ ' ' :: '&' :: ' ' :: b) (.and left right) := by
  intro position
  rw [lexemesFrom_between (by decide : ('&', TokenKind.and) ∈ signs) hl]
  exact .and (hl _) rfl (hr _)

theorem Writes.adjacent (hl : Writes .conjunction a left) (hr : Writes .operand b right) :
    Writes .conjunction (a ++ ' ' :: b) (.and left right) := by
  intro position
  rw [lexemesFrom_append (hl.noError position) (endsWord_cons rfl (by decide) _), lexemesFrom_blank]
  exact .adjacent (hl _) (hr _)

theorem Writes.or (hl : Writes .disjunction a left) (hr : Writes .conjunction b right) :
    Writes .disjunction (a ++ ' ' :: '|' :: ' ' :: b) (.or left right) := by
  intro position
  rw [lexemesFrom_between (by decide : ('|', TokenKind.or) ∈ signs) hl]
  exact .or (hl _) rfl (hr _)

end Joins

/-! ## Joined disjunctions -/

/-- The disjunction of `left` with the parts of `right`, one after another. -/
def Query.disjoin (left : Query) : Query → Query
  | or l r => or (left.disjoin l) r
  | q => or left q

section Disjoin

variable {left right : Query}

theorem Query.disjoin_of_layer_le (h : right.layer ≤ .conjunction) : left.disjoin right = .or left right := by
  cases right with
  | or => exact absurd (show Layer.disjunction ≤ .conjunction from h) (by decide)
  | and | not | group | compare | range | search => rfl

theorem Query.nesting_disjoin : (left.disjoin right).nesting = max left.nesting right.nesting := by
  induction right with
  | or l r ihl _ => simp only [disjoin, nesting, ihl, Nat.max_assoc]
  | and | not | group | compare | range | search => rfl

/-- How a row of disjuncts is read does not matter to what it matches. -/
theorem Query.holds_disjoin (r : Fields) : (left.disjoin right).holds r = (left.holds r || right.holds r) := by
  induction right with
  | or l r ihl _ => simp only [disjoin, holds, ihl, Bool.or_assoc]
  | and | not | group | compare | range | search => rfl

theorem Parser.Spells.disjoin {ts us : List Token} {o : Token} (hl : Spells .disjunction ts left) (ho : o.kind = .or)
    (hr : Spells .disjunction us right) : Spells .disjunction (ts ++ o :: us) (left.disjoin right) := by
  generalize hlayer : Layer.disjunction = layer at hr
  induction hr with
  | conjunction h =>
    rw [Query.disjoin_of_layer_le h.layer_le]
    exact .or hl ho h
  | or _ ho' h ih =>
    rw [← List.cons_append, ← List.append_assoc]
    exact .or (ih hlayer) ho' h
  | text | quoted | field | group | primary | not | operand | and | adjacent => cases hlayer

/-- **Two disjunctions with `|` between them are one.** -/
theorem Writes.disjoin {a b : List Char} (hl : Writes .disjunction a left) (hr : Writes .disjunction b right) :
    Writes .disjunction (a ++ ' ' :: '|' :: ' ' :: b) (left.disjoin right) := by
  intro position
  rw [lexemesFrom_between (by decide : ('|', TokenKind.or) ∈ signs) hl]
  exact (hl _).disjoin rfl (hr _)

end Disjoin

/-! ## Queries around queries -/

/-- `q` in `n` pairs of parentheses. -/
def Query.nested (q : Query) : Nat → Query
  | 0 => q
  | n + 1 => group (q.nested n)

theorem Query.nesting_nested (q : Query) (n : Nat) : (q.nested n).nesting = q.nesting + n := by
  induction n with
  | zero => rfl
  | succ n ih => simp only [nested, nesting, ih, Nat.add_assoc]

theorem Writes.nested {a : List Char} {q : Query} (h : Writes .disjunction a q) (n : Nat) :
    Writes .disjunction (List.replicate n '(' ++ a ++ List.replicate n ')') (q.nested n) := by
  induction n with
  | zero => simpa [Query.nested] using h
  | succ n ih =>
    have hgroup := ih.group.weaken (show Layer.primary ≤ .disjunction by decide)
    rw [List.replicate_succ, List.replicate_succ']
    simpa [Query.nested] using hgroup

/-- **Query texts compose**: they may be put into parentheses, negated there and joined in a row, if there is room. -/
theorem parseQuery_compose {a b : String} {ta tb : Query} (ha : parseQuery a = ⟨some ta, []⟩)
    (hb : parseQuery b = ⟨some tb, []⟩) :
    (ta.nesting < maxNesting → tb.nesting < maxNesting →
      parseQuery ("(" ++ a ++ ")") = ⟨some (.group ta), []⟩ ∧
      parseQuery ("!(" ++ a ++ ")") = ⟨some (.not (.group ta)), []⟩ ∧
      parseQuery ("(" ++ a ++ ") & (" ++ b ++ ")") = ⟨some (.and (.group ta) (.group tb)), []⟩ ∧
      parseQuery ("(" ++ a ++ ") (" ++ b ++ ")") = ⟨some (.and (.group ta) (.group tb)), []⟩ ∧
      parseQuery ("(" ++ a ++ ") | (" ++ b ++ ")") = ⟨some (.or (.group ta) (.group tb)), []⟩) ∧
    (ta.nesting = maxNesting →
      (parseQuery ("(" ++ a ++ ")")).errors.map (·.message) = ["Query nested too deeply"]) ∧
    (parseQuery (a ++ " | " ++ b) = ⟨some (ta.disjoin tb), []⟩ ∧
      ∀ r, (ta.disjoin tb).holds r = (ta.holds r || tb.holds r)) := by
  obtain ⟨hwa, hna⟩ := parseQuery_iff_writes.mp ha
  obtain ⟨hwb, hnb⟩ := parseQuery_iff_writes.mp hb
  have hga := hwa.group
  have hgb := hwb.group
  have hrow := hga.weaken (show Layer.primary ≤ .conjunction by decide)
  have hoperand := hgb.weaken (show Layer.primary ≤ .operand by decide)
  refine ⟨fun hroomA hroomB => ?_, fun hfull => ?_, ?_, fun r => Query.holds_disjoin r⟩
  · have hgroup : (Query.group ta).nesting ≤ maxNesting := hroomA
    have hboth : max (Query.group ta).nesting (Query.group tb).nesting ≤ maxNesting := Nat.max_le.mpr ⟨hroomA, hroomB⟩
    refine ⟨?_, ?_, ?_, ?_, ?_⟩
    · refine parseQuery_iff_writes.mpr ⟨?_, hgroup⟩
      simpa using hga.weaken (by decide)
    · refine parseQuery_iff_writes.mpr ⟨?_, hgroup⟩
      simpa using hga.not.weaken (by decide)
    · refine parseQuery_iff_writes.mpr ⟨?_, hboth⟩
      simpa using (hrow.and hoperand).weaken (by decide)
    · refine parseQuery_iff_writes.mpr ⟨?_, hboth⟩
      simpa using (hrow.adjacent hoperand).weaken (by decide)
    · refine parseQuery_iff_writes.mpr ⟨?_, hboth⟩
      simpa using (hga.weaken (by decide)).or (hgb.weaken (by decide))
  · have hdeep : maxNesting < (Query.group ta).nesting := Nat.lt_succ_of_le hfull.ge
    obtain ⟨t, he⟩ := @parseQuery_of_nesting ("(" ++ a ++ ")") _ (by simpa using hga.weaken (by decide)) hdeep
    rw [he]
    rfl
  · refine parseQuery_iff_writes.mpr ⟨?_, ?_⟩
    · simpa using hwa.disjoin hwb
    · rw [Query.nesting_disjoin]
      exact Nat.max_le.mpr ⟨hna, hnb⟩

/-- Two words, and a word in as many parentheses as may be open. -/
theorem parseQuery_compose_words :
    parseQuery "(water) (fire)" =
      ⟨some (.and (.group (.search .usual "water" false)) (.group (.search .usual "fire" false))), []⟩ ∧
    (parseQuery ("(" ++
      String.ofList (List.replicate maxNesting '(' ++ "water".toList ++ List.replicate maxNesting ')') ++
      ")")).errors.map (·.message) = ["Query nested too deeply"] := by
  have hwater : parseQuery "water" = ⟨some (.search .usual "water" false), []⟩ := by decide +kernel
  have hfire : parseQuery "fire" = ⟨some (.search .usual "fire" false), []⟩ := by decide +kernel
  have hdeep : (Query.nested (.search .usual "water" false) maxNesting).nesting = maxNesting :=
    (Query.nesting_nested _ maxNesting).trans (Nat.zero_add maxNesting)
  have hnested := (parseQuery_iff_writes.mp hwater).1.nested maxNesting
  rw [← @String.toList_ofList (_ ++ _)] at hnested
  have hfull := parseQuery_iff_writes.mpr ⟨hnested, hdeep.le⟩
  exact ⟨((parseQuery_compose hwater hfire).1 (by decide) (by decide)).2.2.2.1,
    (parseQuery_compose hfull hfire).2.1 hdeep⟩

end KanjiSearch
