import KanjiSearch.Proofs.Lexer.Lexeme

/-!
# The layout of a query

A query is a row of gaps and lexemes, in turn, without anything between or behind them: `Layout position cs ts` lists
the tokens `ts` of the text `cs` that starts at `position`. Each token stands at the place of its lexeme, the last one
is the end of the query, and a quotation without an end takes all of the rest.

* `tokensFrom_eq_iff`: the tokens of a text are the ones of its layout, so that every text has exactly one.
* `tokensFrom_eq_append`, `eq_of_error`, `exists_error_iff`: where the end of the query and errors stand.
* `tokensFrom_append`: a text without an error keeps its tokens when a text that ends words follows.
* `tokensFrom_add`: the tokens of a text move with it.
* `tokenize_iff_layout`: all of this for whole queries. The only end token stands behind all characters, and an error
  takes all that is left of the query.
-/

namespace KanjiSearch.Lexer

/-- The tokens of the text `cs`, which starts at `position`. -/
inductive Layout : Nat → List Char → List Token → Prop
  /-- nothing but a gap is left -/
  | ending {position} (gap) : (∀ c ∈ gap, IsGap c) → Layout position gap [⟨.eof, "", position + gap.length⟩]
  /-- a lexeme behind a gap -/
  | lexeme {position text rest kind value ts} (gap) : (∀ c ∈ gap, IsGap c) → Lexeme text rest kind value →
      Layout (position + gap.length + text.length) rest ts →
      Layout position (gap ++ (text ++ rest)) (⟨kind, String.ofList value, position + gap.length⟩ :: ts)
  /-- a quote behind a gap that no quote closes -/
  | unclosed {position body} (gap) : (∀ c ∈ gap, IsGap c) → Guarded body →
      Layout position (gap ++ '"' :: body)
        [⟨.error, unclosedQuote, position + gap.length⟩, ⟨.eof, "", position + gap.length + body.length + 1⟩]

/-! ## Tokens and layouts -/

theorem tokensFrom_gap {gap : List Char} (h : ∀ c ∈ gap, IsGap c) (position : Nat) (cs : List Char) :
    tokensFrom position (gap ++ cs) = tokensFrom (position + gap.length) cs := by
  induction gap generalizing position with
  | nil => rfl
  | cons c gap ih =>
    rw [List.cons_append, tokensFrom, scan_of_isGap (h c List.mem_cons_self)]
    simp only [ih (fun d hd => h d (List.mem_cons_of_mem _ hd)), List.length_cons]
    congr 1; omega

theorem tokensFrom_lexeme {text rest value : List Char} {kind : TokenKind} (h : Lexeme text rest kind value)
    (position : Nat) : tokensFrom position (text ++ rest) =
      ⟨kind, String.ofList value, position⟩ :: tokensFrom (position + text.length) rest := by
  obtain ⟨c, more, rfl, hs⟩ := scan_of_lexeme h
  rw [List.cons_append, tokensFrom, hs]
  simp only [List.drop_left, List.length_cons]
  congr 1

theorem tokensFrom_unclosed {body : List Char} (h : Guarded body) (position : Nat) : tokensFrom position ('"' :: body) =
    [⟨.error, unclosedQuote, position⟩, ⟨.eof, "", position + body.length + 1⟩] := by
  rw [tokensFrom, scan_of_guarded h]

/-- A gap in front of a layout. -/
theorem Layout.skip {position : Nat} {gap cs : List Char} {ts : List Token} (hgap : ∀ c ∈ gap, IsGap c)
    (h : Layout (position + gap.length) cs ts) : Layout position (gap ++ cs) ts := by
  have hboth : ∀ {g : List Char}, (∀ c ∈ g, IsGap c) → ∀ c ∈ gap ++ g, IsGap c :=
    fun hg c hc => (List.mem_append.mp hc).elim (hgap c) (hg c)
  cases h with
  | ending g hg =>
    rw [Nat.add_assoc, ← List.length_append]
    exact .ending _ (hboth hg)
  | lexeme g hg hl hrest =>
    rw [← List.append_assoc]
    rw [Nat.add_assoc position, ← List.length_append] at hrest ⊢
    exact .lexeme _ (hboth hg) hl hrest
  | unclosed g hg hbody =>
    rw [← List.append_assoc]
    rw [Nat.add_assoc position, ← List.length_append]
    exact .unclosed _ (hboth hg) hbody

/-- The tokens of a text are a layout of it. -/
theorem layout_tokensFrom (position : Nat) (cs : List Char) : Layout position cs (tokensFrom position cs) := by
  fun_induction tokensFrom position cs with
  | case1 position => exact .ending [] (by simp)
  | case2 position c cs hs ih =>
    have hf := found_scan c cs
    rw [hs] at hf
    cases hf with
    | gap hc =>
      have hgap : ∀ d ∈ [c], IsGap d := by simpa using hc
      exact Layout.skip hgap ih
  | case3 position c cs kind value extra hs ih =>
    have hf := found_scan c cs
    rw [hs] at hf
    cases hf with
    | lexeme more hcs hl =>
      subst hcs
      rw [List.drop_left] at ih ⊢
      exact .lexeme [] (by simp) hl ih
  | case4 position c cs hs =>
    have hf := found_scan c cs
    rw [hs] at hf
    cases hf with
    | unclosed hc hbody =>
      subst hc
      exact .unclosed [] (by simp) hbody

/-- **A text has one layout, and it lists the tokens of the text.** -/
theorem tokensFrom_eq_iff {position : Nat} {cs : List Char} {ts : List Token} :
    tokensFrom position cs = ts ↔ Layout position cs ts := by
  refine ⟨fun h => h ▸ layout_tokensFrom position cs, fun h => ?_⟩
  induction h with
  | @ending position gap hg => simpa [tokensFrom] using tokensFrom_gap hg position []
  | lexeme _ hg hl _ ih => rw [tokensFrom_gap hg, tokensFrom_lexeme hl, ih]
  | unclosed _ hg hbody => rw [tokensFrom_gap hg, tokensFrom_unclosed hbody]

/-! ## The end and errors -/

theorem Lexeme.kind_ne {text rest value : List Char} {kind : TokenKind} (h : Lexeme text rest kind value) :
    kind ≠ .eof ∧ kind ≠ .error := by
  cases h with
  | sign _ hc =>
    rcases mem_signs hc with ⟨_, rfl⟩ | ⟨_, rfl⟩ | ⟨_, rfl⟩ | ⟨_, rfl⟩ | ⟨_, rfl⟩ <;> simp
  | shortComparison hc | longComparison _ hc =>
    rcases mem_comparisonSigns hc with ⟨_, rfl, rfl⟩ | ⟨_, rfl, rfl⟩ <;> simp
  | word _ _ hkind => cases hkind <;> simp
  | field | unknownField | quotation => simp

/-- The last token is the end of the query, and no other one is. -/
theorem tokensFrom_eq_append (position : Nat) (cs : List Char) :
    ∃ ts, tokensFrom position cs = ts ++ [⟨.eof, "", position + cs.length⟩] ∧ ∀ t ∈ ts, t.kind ≠ .eof := by
  have h := layout_tokensFrom position cs
  generalize tokensFrom position cs = ts at h
  induction h with
  | ending gap => exact ⟨[], rfl, by simp⟩
  | @lexeme position text rest kind value ts gap hg hl _ ih =>
    obtain ⟨us, rfl, hus⟩ := ih
    refine ⟨⟨kind, String.ofList value, position + gap.length⟩ :: us, by simp [Nat.add_assoc], fun t ht => ?_⟩
    rcases List.mem_cons.mp ht with rfl | ht
    · exact hl.kind_ne.1
    · exact hus t ht
  | @unclosed position body gap =>
    exact ⟨[⟨.error, unclosedQuote, position + gap.length⟩], by simp [Nat.add_assoc], by simp⟩

/-- No token of `ts` is an error. -/
def NoError (ts : List Token) : Prop :=
  ∀ t ∈ ts, t.kind ≠ .error

/-- An error stands directly before the end, at a quote behind text without errors that no quote behind it closes. -/
theorem eq_of_error {position : Nat} {cs : List Char} {before after : List Token} {t : Token}
    (h : tokensFrom position cs = before ++ t :: after) (ht : t.kind = .error) :
    t.value = unclosedQuote ∧ after = [⟨.eof, "", position + cs.length⟩] ∧ NoError before ∧
      ∃ text body, cs = text ++ '"' :: body ∧ Guarded body ∧ t.position = position + text.length ∧
        tokensFrom position text = before ++ [⟨.eof, "", t.position⟩] := by
  have hlayout := layout_tokensFrom position cs
  rw [h] at hlayout
  generalize hts : before ++ t :: after = ts at hlayout
  induction hlayout generalizing before with
  | ending gap =>
    cases before with
    | nil => cases (List.cons.inj hts).1; cases ht
    | cons _ _ => simp at hts
  | @lexeme position text rest kind value ts gap hg hl hrest ih =>
    cases before with
    | nil => cases (List.cons.inj hts).1; exact absurd ht hl.kind_ne.2
    | cons u us =>
      obtain ⟨rfl, hus⟩ := List.cons.inj hts
      obtain ⟨hv, ha, hno, text', body, rfl, hb, hp, htext⟩ :=
        ih (by rw [tokensFrom_eq_iff.mpr hrest]; exact hus.symm) hus
      refine ⟨hv, by simp [ha, Nat.add_assoc], fun x hx => ?_, gap ++ (text ++ text'), body, by simp, hb, ?_, ?_⟩
      · rcases List.mem_cons.mp hx with rfl | hx
        · exact hl.kind_ne.2
        · exact hno x hx
      · simp only [List.length_append]; omega
      · rw [tokensFrom_gap hg, tokensFrom_lexeme hl.cut, htext]; rfl
  | @unclosed position body gap hg hb =>
    match before with
    | [] =>
      obtain ⟨rfl, rfl⟩ := List.cons.inj hts
      refine ⟨rfl, by simp [Nat.add_assoc], by simp [NoError], gap, body, rfl, hb, rfl, ?_⟩
      simpa [tokensFrom] using tokensFrom_gap hg position []
    | [u] => cases (List.cons.inj (List.cons.inj hts).2).1; cases ht
    | _ :: _ :: _ => simp at hts

/-! ## Joined texts -/

/-- The tokens of a joined text, when no lexeme of the first text goes on in the second. -/
theorem Layout.append {position : Nat} {a b : List Char} {ts us : List Token} (ha : Layout position a ts)
    (hno : NoError ts) (hb : EndsWord b) (hus : Layout (position + a.length) b us) :
    Layout position (a ++ b) (ts.dropLast ++ us) := by
  induction ha with
  | ending gap hg => exact hus.skip hg
  | @lexeme position text rest kind value ts gap hg hl hrest ih =>
    have hne : ts ≠ [] := by rintro rfl; cases hrest
    rw [List.dropLast_cons_of_ne_nil hne, List.append_assoc, List.append_assoc, List.cons_append]
    refine .lexeme gap hg (hl.append hb) (ih (fun t ht => hno t (List.mem_cons_of_mem _ ht)) ?_)
    simpa [Nat.add_assoc] using hus
  | unclosed gap => exact absurd rfl (hno _ List.mem_cons_self)

/-- **A text without an error keeps its tokens** in front of a text that ends words. -/
theorem tokensFrom_append {position : Nat} {a b : List Char} (hno : NoError (tokensFrom position a))
    (hb : EndsWord b) :
    tokensFrom position (a ++ b) = (tokensFrom position a).dropLast ++ tokensFrom (position + a.length) b :=
  tokensFrom_eq_iff.mpr ((layout_tokensFrom position a).append hno hb (layout_tokensFrom _ b))

/-- **A text has an error exactly when an opening quote has no closing one.** -/
theorem exists_error_iff {position : Nat} {cs : List Char} : (∃ t ∈ tokensFrom position cs, t.kind = .error) ↔
    ∃ text body, cs = text ++ '"' :: body ∧ NoError (tokensFrom position text) ∧ Guarded body := by
  constructor
  · rintro ⟨t, ht, hk⟩
    obtain ⟨before, after, h⟩ := List.append_of_mem ht
    obtain ⟨-, -, hno, text, body, hcs, hb, -, htext⟩ := eq_of_error h hk
    refine ⟨text, body, hcs, fun u hu => ?_, hb⟩
    rw [htext, List.mem_append, List.mem_singleton] at hu
    rcases hu with hu | rfl
    · exact hno u hu
    · simp
  · rintro ⟨text, body, rfl, hno, hb⟩
    have hends : EndsWord ('"' :: body) := fun d hd => by cases hd; decide
    rw [tokensFrom_append hno hends, tokensFrom_unclosed hb]
    exact ⟨⟨.error, unclosedQuote, position + text.length⟩, by simp, rfl⟩

/-- The tokens of a text without its end. -/
def lexemesFrom (position : Nat) (cs : List Char) : List Token :=
  (tokensFrom position cs).dropLast

theorem tokensFrom_eq (position : Nat) (cs : List Char) :
    tokensFrom position cs = lexemesFrom position cs ++ [⟨.eof, "", position + cs.length⟩] := by
  obtain ⟨ts, h, -⟩ := tokensFrom_eq_append position cs
  rw [lexemesFrom, h, List.dropLast_concat]

theorem kind_ne_eof_of_mem {position : Nat} {cs : List Char} {t : Token} (ht : t ∈ lexemesFrom position cs) :
    t.kind ≠ .eof := by
  obtain ⟨ts, h, hts⟩ := tokensFrom_eq_append position cs
  rw [lexemesFrom, h, List.dropLast_concat] at ht
  exact hts t ht

theorem lexemesFrom_nil (position : Nat) : lexemesFrom position [] = [] := by
  simp [lexemesFrom, tokensFrom]

theorem lexemesFrom_gap {gap : List Char} (h : ∀ c ∈ gap, IsGap c) (position : Nat) (cs : List Char) :
    lexemesFrom position (gap ++ cs) = lexemesFrom (position + gap.length) cs := by
  rw [lexemesFrom, tokensFrom_gap h, lexemesFrom]

theorem lexemesFrom_lexeme {text rest value : List Char} {kind : TokenKind} (h : Lexeme text rest kind value)
    (position : Nat) : lexemesFrom position (text ++ rest) =
      ⟨kind, String.ofList value, position⟩ :: lexemesFrom (position + text.length) rest := by
  rw [lexemesFrom, tokensFrom_lexeme h, tokensFrom_eq, ← List.cons_append, List.dropLast_concat]

theorem lexemesFrom_append {position : Nat} {a b : List Char} (hno : NoError (tokensFrom position a))
    (hb : EndsWord b) :
    lexemesFrom position (a ++ b) = lexemesFrom position a ++ lexemesFrom (position + a.length) b := by
  obtain ⟨us, h, -⟩ := tokensFrom_eq_append (position + a.length) b
  simp only [lexemesFrom, tokensFrom_append hno hb, h, ← List.append_assoc, List.dropLast_concat]

/-! ## Moved texts -/

/-- `t`, moved by `n` characters. -/
def moved (n : Nat) (t : Token) : Token :=
  { t with position := t.position + n }

@[simp]
theorem moved_kind (n : Nat) (t : Token) : (moved n t).kind = t.kind := rfl

@[simp]
theorem moved_value (n : Nat) (t : Token) : (moved n t).value = t.value := rfl

/-- The tokens of a text move with it. -/
theorem tokensFrom_add (position n : Nat) (cs : List Char) :
    tokensFrom (position + n) cs = (tokensFrom position cs).map (moved n) := by
  fun_induction tokensFrom position cs with
  | case1 position => simp [tokensFrom, moved]
  | case2 position c cs hs ih =>
    rw [tokensFrom, hs, ← ih, Nat.add_right_comm]
  | case3 position c cs kind value extra hs ih =>
    rw [tokensFrom, hs, List.map_cons, ← ih]
    simp only [moved]
    congr 2
    omega
  | case4 position c cs hs =>
    rw [tokensFrom, hs]
    simp only [List.map_cons, List.map_nil, moved, List.cons.injEq, Token.mk.injEq, and_true, true_and]
    omega

end KanjiSearch.Lexer

namespace KanjiSearch

open Lexer

/-! ## Whole queries -/

/-- **Tokens are the lexemes of a query, and nothing is lost, invented or read twice.** The only error is a quote
without its end. -/
theorem tokenize_iff_layout (query : String) :
    (∀ ts, tokenize query = ts ↔ Layout 0 query.toList ts) ∧
    (∃ ts, tokenize query = ts ++ [⟨.eof, "", query.length⟩] ∧ ∀ t ∈ ts, t.kind ≠ .eof) ∧
    (∀ before t after, tokenize query = before ++ t :: after → t.kind = .error →
      after = [⟨.eof, "", query.length⟩] ∧ NoError before ∧
      ∃ text body, query.toList = text ++ '"' :: body ∧ Guarded body ∧ t.position = text.length) ∧
    ((∃ t ∈ tokenize query, t.kind = .error) ↔
      ∃ text body, query.toList = text ++ '"' :: body ∧ NoError (tokensFrom 0 text) ∧ Guarded body) := by
  refine ⟨fun ts => tokensFrom_eq_iff, ?_, fun before t after h ht => ?_, exists_error_iff⟩
  · obtain ⟨ts, h, hts⟩ := tokensFrom_eq_append 0 query.toList
    rw [Nat.zero_add, String.length_toList] at h
    exact ⟨ts, h, hts⟩
  · obtain ⟨-, ha, hno, text, body, hcs, hb, hp, -⟩ := eq_of_error h ht
    rw [Nat.zero_add, String.length_toList] at ha
    rw [Nat.zero_add] at hp
    exact ⟨ha, hno, text, body, hcs, hb, hp⟩

end KanjiSearch
