import KanjiSearch.Proofs.Completion.Offers
import KanjiSearch.Proofs.Lexer.Seams
import KanjiSearch.Query.SyntaxError

/-!
# Completed words

A completion takes the place of the word in front of the cursor. The text before this word is empty or ends in a blank
or an opening sign, so its tokens stay what they are (`WordAtEnd.tokensFrom_append`), and the completion is one further
token: the one that it stands for (`StandsFor.lexeme`).

* `completions_tokenize`: the tokens of a completed text, if there is no error in front of the word, and what is offered
  for it: the spellings, each with a colon, that begin with the word in lower case, and then the keywords that begin
  with it in upper case.
-/

open KanjiSearch.Lexer

namespace KanjiSearch

/-- The kind of the token of a connective. -/
def Connective.kind : Connective → TokenKind
  | and => .and
  | or => .or
  | not => .not

/-- The completion `s` stands for a token of this kind and value: a spelling with a colon for its field, and a keyword
for its operator. -/
inductive StandsFor : String → TokenKind → String → Prop
  | field {spelling f} : (spelling, f) ∈ Field.table → StandsFor (spelling ++ ":") (.field f) spelling
  | keyword (c : Connective) : StandsFor c.keyword c.kind c.keyword

variable {query s value : String} {cursor : Nat} {kind : TokenKind} {before front signs word : List Char}

/-! ## Completions -/

theorem exists_standsFor (hs : s ∈ completions query cursor) : ∃ kind value, StandsFor s kind value := by
  have hall := (completions_sublist query cursor).mem hs
  rcases List.mem_append.mp hall with hfield | hkeyword
  · obtain ⟨p, hp, rfl⟩ := List.mem_map.mp hfield
    obtain ⟨f, hf⟩ := exists_field_of_mem hp
    exact ⟨_, _, .field hf⟩
  · have hcases : s = "AND" ∨ s = "OR" ∨ s = "NOT" := by simpa [keywords] using hkeyword
    rcases hcases with rfl | rfl | rfl
    · exact ⟨_, _, .keyword .and⟩
    · exact ⟨_, _, .keyword .or⟩
    · exact ⟨_, _, .keyword .not⟩

/-- A completion is a lexeme of the token that it stands for. -/
theorem StandsFor.lexeme (h : StandsFor s kind value) : Lexeme s.toList [] kind value.toList := by
  cases h with
  | @field _ f hf =>
    obtain ⟨hword, -, hlower, hspelling⟩ := of_mem_table _ hf
    have hname : Field.ofSpelling? (String.ofList (Text.lower value.toList)) = some f := by
      rw [hlower, String.ofList_toList]
      exact hspelling
    have hlexeme := Lexeme.field [] hword hname
    rw [hlower] at hlexeme
    rw [String.toList_append]
    exact hlexeme
  | keyword c =>
    have hkeyword : IsWord c.keyword.toList ∧ wordKind c.keyword.toList = c.kind := by
      cases c <;> decide +kernel
    exact .word hkeyword.1 endsWord_nil (classified_iff.mpr hkeyword.2)

/-! ## Texts in front of words -/

/-- In front of the word there is nothing, or a seam. -/
theorem WordAtEnd.seam (h : WordAtEnd before front signs word) :
    front ++ signs = [] ∨ ∃ cs c, front ++ signs = cs ++ [c] ∧ IsSeam c := by
  rcases List.eq_nil_or_concat signs with rfl | ⟨more, c, rfl⟩
  · rcases List.eq_nil_or_concat front with rfl | ⟨more, c, rfl⟩
    · exact .inl rfl
    · have hblank : Text.isBlank c = true := h.front_blank c (by simp)
      exact .inr ⟨more, c, by simp, .inl hblank⟩
  · have hsign : IsSeam c := by
      rcases h.signs_open c (by simp) with rfl | rfl
      · exact .inr ⟨.openParen, by decide⟩
      · exact .inr ⟨.not, by decide⟩
    exact .inr ⟨front ++ more, c, by simp, hsign⟩

/-- The text in front of the word keeps its tokens, unless it has an error. -/
theorem WordAtEnd.tokensFrom_append (h : WordAtEnd before front signs word) {position : Nat}
    (hno : NoError (tokensFrom position (front ++ signs))) (more : List Char) :
    tokensFrom position (front ++ signs ++ more) =
      lexemesFrom position (front ++ signs) ++ tokensFrom (position + (front ++ signs).length) more := by
  rcases h.seam with hnil | ⟨cs, c, hsplit, hc⟩
  · rw [hnil, lexemesFrom_nil]
    rfl
  · rw [hsplit] at hno ⊢
    exact tokensFrom_append_of_isSeam hc hno more

/-- **The tokens of a completed text**: those of the text in front of the word, and the one of the completion. -/
theorem WordAtEnd.tokenize_completed (h : WordAtEnd before front signs word) {base : String}
    (hbase : base.toList = front ++ signs) (hno : NoError (tokenize base)) (hs : StandsFor s kind value) :
    tokenize (base ++ s) =
      lexemesFrom 0 base.toList ++ [⟨kind, value, base.length⟩, ⟨.eof, "", (base ++ s).length⟩] := by
  have hlexeme := tokensFrom_lexeme hs.lexeme base.length
  rw [List.append_nil, String.ofList_toList, tokensFrom] at hlexeme
  rw [tokenize, hbase] at hno
  rw [tokenize, String.toList_append, hbase, h.tokensFrom_append hno, ← hbase, Nat.zero_add, String.length_toList,
    hlexeme, String.length_append, String.length_toList]

/-- **Every completion makes the token that it stands for**, behind the tokens of the text in front of the word. -/
theorem completions_tokenize (query : String) (cursor : Nat) : ∃ front signs word : List Char,
    (∀ f s w, WordAtEnd (query.toList.take cursor) f s w ↔ f = front ∧ s = signs ∧ w = word) ∧
    (∀ base : String, base.toList = front ++ signs → NoError (tokenize base) →
      ∃ ts, tokenize base = ts ++ [⟨.eof, "", base.length⟩] ∧ (∀ t ∈ ts, t.kind ≠ .eof) ∧
        ∀ s ∈ completions query cursor, ∃ kind value, StandsFor s kind value ∧
          tokenize (base ++ s) = ts ++ [⟨kind, value, base.length⟩, ⟨.eof, "", (base ++ s).length⟩]) ∧
    (completions query cursor).Sublist (Field.allSpellings.map (· ++ ":") ++ keywords) ∧
    (∀ p ∈ Field.allSpellings, p ++ ":" ∈ completions query cursor ↔ Text.lower word <+: p.toList) ∧
    (∀ k ∈ keywords, k ∈ completions query cursor ↔ Text.upper word <+: k.toList) := by
  have hword : ∃ front signs, WordAtEnd (query.toList.take cursor) front signs
      (typedWord (query.toList.take cursor)) := ⟨_, _, wordAtEnd_iff.mpr ⟨rfl, rfl, rfl⟩⟩
  obtain ⟨front, signs, h⟩ := hword
  obtain ⟨hfront, hsigns, -⟩ := wordAtEnd_iff.mp h
  refine ⟨front, signs, typedWord (query.toList.take cursor), fun f s w => ?_, fun base hbase hno => ?_,
    completions_sublist query cursor, fun p hp => spelling_mem_completions query cursor hp,
    fun k hk => keyword_mem_completions query cursor hk⟩
  · rw [hfront, hsigns]
    exact wordAtEnd_iff
  · refine ⟨lexemesFrom 0 base.toList, ?_, fun t ht => kind_ne_eof_of_mem ht, fun s hs => ?_⟩
    · rw [tokenize, tokensFrom_eq, Nat.zero_add, String.length_toList]
    · obtain ⟨kind, value, hstands⟩ := exists_standsFor hs
      exact ⟨kind, value, hstands, h.tokenize_completed hbase hno hstands⟩

/-- A word behind two opening signs, with the cursor in the middle of the query. -/
theorem completions_tokenize_signs : NoError (tokenize "火 & (!") ∧ "kun:" ∈ completions "火 & (!KUx)" 8 ∧
    ∃ kind value, StandsFor "kun:" kind value ∧ tokenize ("火 & (!" ++ "kun:") =
      [⟨.text, "火", 0⟩, ⟨.and, "&", 2⟩, ⟨.openParen, "(", 4⟩, ⟨.not, "!", 5⟩] ++
        [⟨kind, value, 6⟩, ⟨.eof, "", 10⟩] := by
  have htokens : tokenize "火 & (!" = [⟨.text, "火", 0⟩, ⟨.and, "&", 2⟩, ⟨.openParen, "(", 4⟩, ⟨.not, "!", 5⟩] ++
      [⟨.eof, "", 6⟩] := by decide +kernel
  have hno : NoError (tokenize "火 & (!") := by
    rw [htokens]
    unfold NoError
    decide
  have hoffered : "kun:" ∈ completions "火 & (!KUx)" 8 := by decide +kernel
  have hword : WordAtEnd ("火 & (!KUx)".toList.take 8) ['火', ' ', '&', ' '] ['(', '!'] ['K', 'U'] :=
    wordAtEnd_iff.mpr (by decide +kernel)
  obtain ⟨front, signs, word, hunique, hcompleted, -⟩ := completions_tokenize "火 & (!KUx)" 8
  obtain ⟨rfl, rfl, rfl⟩ := (hunique _ _ _).mp hword
  obtain ⟨ts, hts, -, hall⟩ := hcompleted "火 & (!" (by decide +kernel) hno
  obtain rfl := List.append_inj_left' (hts.symm.trans htokens) rfl
  exact ⟨hno, hoffered, hall "kun:" hoffered⟩

end KanjiSearch
