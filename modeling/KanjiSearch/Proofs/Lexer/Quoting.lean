import KanjiSearch.Proofs.Lexer.Layout

/-!
# Quoting and reading quotations

Writing a text between quotes and reading a quotation take each other back. The backslash has no escape of its own. One
in front of a quote of the text does no harm, because the quote gets a backslash of its own; but one at the end of the
text takes the closing quote for itself, and the quotation has no end.

* `isQuotation_iff`: the texts that are one quotation, by their tokens.
* `tokensFrom_quoted`, `quoted_of_isQuotation`: a text is read back from its quotation, and a quotation is written again
  from its value.
* `guarded_of_backslash`: a text that ends in a backslash cannot be quoted.
* `quoting_bijective`: all of this for whole queries. Quotations are just the texts that read as one quoted token and
  end with a quote.
-/

namespace KanjiSearch.Lexer

variable {text value body : List Char}

/-- `text` is one quotation, from its opening quote to the quote that closes it. -/
def IsQuotation (text : List Char) : Prop :=
  ∃ body, text = '"' :: (body ++ ['"']) ∧ Quotable body

/-! ## Reading a single quotation -/

theorem tokensFrom_quotation (h : Quotable body) (position : Nat) : tokensFrom position ('"' :: (body ++ ['"'])) =
    [⟨.quoted, String.ofList (unescaped body), position⟩, ⟨.eof, "", position + (body.length + 2)⟩] := by
  have hlexeme := tokensFrom_lexeme (.quotation [] h) position
  rw [List.append_nil] at hlexeme
  rw [hlexeme, tokensFrom, List.length_cons, List.length_append, List.length_singleton]

/-- The lexemes of quoted tokens are quotations. -/
theorem Lexeme.isQuotation {rest : List Char} (h : Lexeme text rest .quoted value) : IsQuotation text := by
  generalize hkind : TokenKind.quoted = kind at h
  cases h with
  | sign _ hc =>
    rcases mem_signs hc with ⟨-, rfl⟩ | ⟨-, rfl⟩ | ⟨-, rfl⟩ | ⟨-, rfl⟩ | ⟨-, rfl⟩ <;> cases hkind
  | shortComparison hc | longComparison _ hc =>
    rcases mem_comparisonSigns hc with ⟨-, rfl, rfl⟩ | ⟨-, rfl, rfl⟩ <;> cases hkind
  | word _ _ hword => cases hword <;> cases hkind
  | field | unknownField => cases hkind
  | @quotation body _ hbody => exact ⟨body, rfl, hbody⟩

theorem not_isGap_quote : ¬ IsGap '"' := by
  rintro (h | h) <;> exact absurd h (by decide)

/-- **A text is one quotation exactly when it reads as one quoted token** and ends with a quote, so that no gap follows
the quotation. -/
theorem isQuotation_iff : IsQuotation text ↔
    text.getLast? = some '"' ∧ ∃ value, tokensFrom 0 text = [⟨.quoted, value, 0⟩, ⟨.eof, "", text.length⟩] := by
  constructor
  · rintro ⟨body, rfl, hbody⟩
    refine ⟨by simp [List.getLast?_cons], String.ofList (unescaped body), ?_⟩
    rw [tokensFrom_quotation hbody, Nat.zero_add, List.length_cons, List.length_append, List.length_singleton]
  · rintro ⟨hlast, value, htokens⟩
    have hlayout := layout_tokensFrom 0 text
    rw [htokens] at hlayout
    generalize hts : [(⟨.quoted, value, 0⟩ : Token), ⟨.eof, "", text.length⟩] = ts at hlayout
    cases hlayout with
    | ending => cases hts
    | unclosed => cases hts
    | @lexeme _ quotation rest _ _ _ gap hgap hlexeme hrest =>
      obtain ⟨hfirst, hmore⟩ := List.cons.inj hts
      obtain ⟨rfl, -, hplace⟩ := Token.mk.inj hfirst
      obtain rfl : gap = [] := List.eq_nil_of_length_eq_zero (by omega)
      subst hmore
      generalize hmore : [(⟨.eof, "", _⟩ : Token)] = ts at hrest
      cases hrest with
      | ending _ hrest =>
        rcases List.eq_nil_or_concat rest with rfl | ⟨cs, c, rfl⟩
        · simpa using hlexeme.isQuotation
        · obtain rfl : c = '"' := by simpa [← List.append_assoc] using hlast
          exact absurd (hrest '"' (by simp)) not_isGap_quote
      | lexeme _ _ hlexeme' =>
        have hkind := congrArg Token.kind (List.cons.inj hmore).1
        exact absurd hkind.symm hlexeme'.kind_ne.1
      | unclosed => cases hmore

/-! ## Writing and reading -/

theorem isQuotation_quoted (h : value.getLast? ≠ some '\\') : IsQuotation (quoted value) :=
  ⟨escaped value, quoted_eq value, quotable_escaped h⟩

/-- A text that does not end in a backslash is read from its quotation. -/
theorem tokensFrom_quoted (h : value.getLast? ≠ some '\\') (position : Nat) : tokensFrom position (quoted value) =
    [⟨.quoted, String.ofList value, position⟩, ⟨.eof, "", position + (quoted value).length⟩] := by
  rw [quoted_eq, tokensFrom_quotation (quotable_escaped h), unescaped_escaped, List.length_cons, List.length_append,
    List.length_singleton]

/-- A quotation is written again from its value, which does not end in a backslash. -/
theorem quoted_of_isQuotation (h : IsQuotation text) :
    ∃ value, value.getLast? ≠ some '\\' ∧ quoted value = text := by
  obtain ⟨body, rfl, hbody⟩ := h
  exact ⟨unescaped body, hbody.unescaped_getLast?, by rw [quoted_eq, escaped_unescaped hbody.1]⟩

/-- A backslash at the end of a text guards the quote that should close its quotation. -/
theorem guarded_of_backslash (h : value.getLast? = some '\\') : Guarded (escaped value ++ ['"']) := by
  intro before after hsplit
  rcases List.eq_nil_or_concat after with rfl | ⟨more, c, rfl⟩
  · rw [← List.append_inj_left' hsplit rfl, getLast?_escaped, h]
  · rw [List.concat_eq_append, ← List.cons_append, ← List.append_assoc] at hsplit
    exact guarded_escaped value before more (List.append_inj_left' hsplit rfl)

end KanjiSearch.Lexer

namespace KanjiSearch

open Lexer

/-- **Quoting is a bijection** between the texts that do not end in a backslash and the texts that are one quotation. -/
theorem quoting_bijective :
    (∀ value : String, value.toList.getLast? ≠ some '\\' → IsQuotation (Query.search .usual value true).written ∧
      tokenize (String.ofList (Query.search .usual value true).written) =
        [⟨.quoted, value, 0⟩, ⟨.eof, "", (Query.search .usual value true).written.length⟩]) ∧
    (∀ text : String, IsQuotation text.toList → ∃ value : String, value.toList.getLast? ≠ some '\\' ∧
      tokenize text = [⟨.quoted, value, 0⟩, ⟨.eof, "", text.length⟩] ∧
      (Query.search .usual value true).written = text.toList) ∧
    (∀ value : String, value.toList.getLast? = some '\\' →
      tokenize (String.ofList (Query.search .usual value true).written) =
        [⟨.error, unclosedQuote, 0⟩, ⟨.eof, "", (Query.search .usual value true).written.length⟩]) ∧
    (∀ text : String, IsQuotation text.toList ↔ text.toList.getLast? = some '"' ∧
      ∃ value, tokenize text = [⟨.quoted, value, 0⟩, ⟨.eof, "", text.length⟩]) := by
  have hwritten : ∀ value : String, (Query.search .usual value true).written = quoted value.toList := fun _ => rfl
  refine ⟨fun value hvalue => ?_, fun text htext => ?_, fun value hvalue => ?_, fun text => ?_⟩
  · rw [hwritten, tokenize, String.toList_ofList, tokensFrom_quoted hvalue, String.ofList_toList, Nat.zero_add]
    exact ⟨isQuotation_quoted hvalue, rfl⟩
  · obtain ⟨value, hlast, hquoted⟩ := quoted_of_isQuotation htext
    refine ⟨String.ofList value, ?_, ?_, ?_⟩
    · rwa [String.toList_ofList]
    · rw [tokenize, ← hquoted, tokensFrom_quoted hlast, hquoted, Nat.zero_add, String.length_toList]
    · rw [hwritten, String.toList_ofList, hquoted]
  · rw [hwritten, tokenize, String.toList_ofList, quoted_eq, tokensFrom_unclosed (guarded_of_backslash hvalue),
      Nat.zero_add, List.length_cons]
  · rw [isQuotation_iff, String.length_toList]
    rfl

/-- A backslash in front of a quote is read back; the lone backslash leaves the quotation open. -/
theorem quoting_bijective_backslash :
    tokenize (String.ofList ['"', '\\', '\\', '"', '"']) = [⟨.quoted, "\\\"", 0⟩, ⟨.eof, "", 5⟩] ∧
    (∃ value : String, tokenize "\"\\\"\"" = [⟨.quoted, value, 0⟩, ⟨.eof, "", 4⟩] ∧
      (Query.search .usual value true).written = ['"', '\\', '"', '"']) ∧
    tokenize (String.ofList ['"', '\\', '"']) = [⟨.error, unclosedQuote, 0⟩, ⟨.eof, "", 3⟩] := by
  obtain ⟨value, -, hread⟩ := quoting_bijective.2.1 "\"\\\"\"" ⟨_, rfl, guarded_escape.mpr guarded_nil, by decide⟩
  exact ⟨(quoting_bijective.1 "\\\"" (by decide)).2, ⟨value, hread⟩, quoting_bijective.2.2.1 "\\" (by decide)⟩

end KanjiSearch
