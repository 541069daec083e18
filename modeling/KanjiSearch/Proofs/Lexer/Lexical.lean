import KanjiSearch.Proofs.Grammar.EndOfTokens
import KanjiSearch.Proofs.Lexer.FieldNames

/-!
# The values of tokens

The kind of a token says what its value looks like (`Lexical`), and all tokens of a query keep to it
(`allLexical_tokenize`): a text is a bare word that is neither a keyword nor made of numbers, a number is a run of
digits, a range is two of them with a dash between, and a quotation does not end in a backslash. Blanks stand only in
quotations and in what an error says (`blank_not_mem_value`), which is always the same (`value_of_error`).
-/

namespace KanjiSearch.Lexer

/-- What the value of a token looks like, by its kind. -/
def Lexical (t : Token) : Prop :=
  match t.kind with
  | .text => IsWord t.value.toList ∧ IsPlain t.value.toList
  | .number => Text.isNumber t.value.toList = true
  | .range => IsSpan t.value.toList
  | .quoted => t.value.toList.getLast? ≠ some '\\'
  | _ => True

theorem Lexeme.lexical {text rest value : List Char} {kind : TokenKind} (h : Lexeme text rest kind value)
    (position : Nat) : Lexical ⟨kind, String.ofList value, position⟩ := by
  cases h with
  | sign _ hc =>
    rcases mem_signs hc with ⟨_, rfl⟩ | ⟨_, rfl⟩ | ⟨_, rfl⟩ | ⟨_, rfl⟩ | ⟨_, rfl⟩ <;> trivial
  | shortComparison hc | longComparison _ hc =>
    rcases mem_comparisonSigns hc with ⟨_, rfl, rfl⟩ | ⟨_, rfl, rfl⟩ <;> trivial
  | word hword _ hkind =>
    cases hkind with
    | and | or | not => trivial
    | range h | number h => simpa [Lexical] using h
    | text h => simpa [Lexical] using ⟨hword, h⟩
  | field | unknownField => trivial
  | quotation _ hbody => simpa [Lexical] using hbody.unescaped_getLast?

/-- The values of all tokens have the form of their kinds. -/
def AllLexical (ts : List Token) : Prop :=
  ∀ t ∈ ts, Lexical t

theorem AllLexical.suffix {ts us : List Token} (h : AllLexical ts) (hus : us <:+ ts) : AllLexical us :=
  fun t ht => h t (hus.mem ht)

theorem AllLexical.tail {t : Token} {ts : List Token} (h : AllLexical (t :: ts)) : AllLexical ts :=
  h.suffix (List.suffix_cons ..)

theorem allLexical_tokensFrom (position : Nat) (cs : List Char) : AllLexical (tokensFrom position cs) := by
  have h := layout_tokensFrom position cs
  generalize tokensFrom position cs = ts at h
  induction h with
  | ending => exact List.forall_mem_singleton.mpr trivial
  | lexeme _ _ hl _ ih => exact List.forall_mem_cons.mpr ⟨hl.lexical _, ih⟩
  | unclosed => exact List.forall_mem_cons.mpr ⟨trivial, List.forall_mem_singleton.mpr trivial⟩

theorem Lexical.isNumber {t : Token} (h : Lexical t) (ht : t.kind = .number) :
    Text.isNumber t.value.toList = true := by
  rwa [Lexical, ht] at h

theorem Lexical.isSpan {t : Token} (h : Lexical t) (ht : t.kind = .range) : IsSpan t.value.toList := by
  rwa [Lexical, ht] at h

/-! ## Blanks -/

theorem IsWord.blank_not_mem {word : List Char} (h : IsWord word) : ' ' ∉ word :=
  fun hmem => absurd (h.2 ' ' hmem) (by decide)

theorem Lexeme.blank_not_mem {text rest value : List Char} {kind : TokenKind} (h : Lexeme text rest kind value)
    (hkind : kind ≠ .quoted) : ' ' ∉ value := by
  cases h with
  | sign _ hc =>
    rcases mem_signs hc with ⟨rfl, _⟩ | ⟨rfl, _⟩ | ⟨rfl, _⟩ | ⟨rfl, _⟩ | ⟨rfl, _⟩ <;> decide
  | shortComparison hc | longComparison _ hc => rcases mem_comparisonSigns hc with ⟨rfl, _⟩ | ⟨rfl, _⟩ <;> decide
  | word hword => exact hword.blank_not_mem
  | field _ hword | unknownField _ hword => exact hword.lower.blank_not_mem
  | quotation => exact absurd rfl hkind

/-- The value of a token holds no blank, unless it is a quotation or says what is wrong. -/
theorem blank_not_mem_value {position : Nat} {cs : List Char} {t : Token} (ht : t ∈ tokensFrom position cs)
    (hquoted : t.kind ≠ .quoted) (herror : t.kind ≠ .error) : ' ' ∉ t.value.toList := by
  have h := layout_tokensFrom position cs
  generalize tokensFrom position cs = ts at h ht
  induction h with
  | ending =>
    rw [List.mem_singleton.mp ht]
    simp
  | lexeme _ _ hl _ ih =>
    rcases List.mem_cons.mp ht with rfl | ht
    · rw [String.toList_ofList]
      exact hl.blank_not_mem hquoted
    · exact ih ht
  | unclosed =>
    rcases List.mem_pair.mp ht with rfl | rfl
    · exact absurd rfl herror
    · simp

/-- What is wrong with a text that is no token is always that a quotation has no end. -/
theorem value_of_error {position : Nat} {cs : List Char} {t : Token} (ht : t ∈ tokensFrom position cs)
    (herror : t.kind = .error) : t.value = unclosedQuote := by
  obtain ⟨before, after, htokens⟩ := List.append_of_mem ht
  exact (eq_of_error htokens herror).1

end KanjiSearch.Lexer

namespace KanjiSearch

/-! ## Whole queries -/

theorem tokensBeforeEnd_tokenize (query : String) :
    tokensBeforeEnd (tokenize query) = Lexer.lexemesFrom 0 query.toList := by
  rw [tokensBeforeEnd, tokenize, Lexer.tokensFrom_eq, List.takeWhile_append_of_pos]
  · simp
  · intro t ht
    simpa using Lexer.kind_ne_eof_of_mem ht

theorem allLexical_tokenize (query : String) : Lexer.AllLexical (tokensBeforeEnd (tokenize query)) :=
  fun t ht => Lexer.allLexical_tokensFrom _ _ t ((List.takeWhile_sublist _).mem ht)

end KanjiSearch
