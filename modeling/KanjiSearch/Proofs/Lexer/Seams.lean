import KanjiSearch.Proofs.Lexer.Blanks

/-!
# Seams

Behind a text that ends in a word, the tokens of a joined text may differ from those of its parts, since the word may go
on. Behind a blank or a sign of one character nothing goes on, apart from a quotation that has no end. So a text without
errors that ends there keeps its tokens whatever follows (`tokensFrom_append_of_isSeam`).
-/

namespace KanjiSearch.Lexer

variable {c : Char} {cs : List Char} {position : Nat}

/-- A character behind which no lexeme goes on, unless it is inside a quotation. -/
def IsSeam (c : Char) : Prop :=
  Text.isBlank c = true ∨ ∃ kind, (c, kind) ∈ signs

theorem IsSeam.endsWord (hc : IsSeam c) (cs : List Char) : EndsWord (c :: cs) := by
  rcases hc with hblank | ⟨kind, hsign⟩
  · exact endsWord_of_isBlank hblank cs
  · rcases mem_signs hsign with ⟨rfl, _⟩ | ⟨rfl, _⟩ | ⟨rfl, _⟩ | ⟨rfl, _⟩ | ⟨rfl, _⟩ <;>
      exact endsWord_cons rfl (by decide) cs

theorem IsSeam.ne_quote (hc : IsSeam c) : c ≠ '"' := by
  rintro rfl
  rcases hc with hblank | ⟨kind, hsign⟩
  · exact absurd hblank (by decide)
  · simp [signs] at hsign

/-- The tokens of a seam do not depend on what follows. -/
theorem IsSeam.exists_tokens (hc : IsSeam c) (position : Nat) :
    ∃ ts, ∀ cs, tokensFrom position (c :: cs) = ts ++ tokensFrom (position + 1) cs := by
  rcases hc with hblank | ⟨kind, hsign⟩
  · have hgap : ∀ d ∈ [c], IsGap d := List.forall_mem_singleton.mpr (.inl hblank)
    refine ⟨[], fun cs => ?_⟩
    exact tokensFrom_gap hgap position cs
  · refine ⟨[⟨kind, String.ofList [c], position⟩], fun cs => ?_⟩
    exact tokensFrom_lexeme (.sign cs hsign) position

/-! ## Shorter texts -/

theorem Guarded.concat (h : Guarded cs) (hc : c ≠ '"') : Guarded (cs ++ [c]) := by
  intro before after hsplit
  rcases List.eq_nil_or_concat after with rfl | ⟨more, d, rfl⟩
  · have hlast : c = '"' := List.singleton_inj.mp (List.append_inj_right' hsplit rfl)
    exact absurd hlast hc
  · rw [List.concat_eq_append, ← List.cons_append, ← List.append_assoc] at hsplit
    exact h before more (List.append_inj_left' hsplit rfl)

/-- A character that is no quote does not take back that a quotation has no end. -/
theorem noError_of_concat (hc : c ≠ '"') (h : NoError (tokensFrom position (cs ++ [c]))) :
    NoError (tokensFrom position cs) := by
  intro t ht hkind
  obtain ⟨text, body, rfl, hno, hbody⟩ := exists_error_iff.mp ⟨t, ht, hkind⟩
  have hlonger : (text ++ '"' :: body) ++ [c] = text ++ '"' :: (body ++ [c]) := by simp
  obtain ⟨u, hu, herror⟩ := exists_error_iff.mpr ⟨text, body ++ [c], hlonger, hno, hbody.concat hc⟩
  exact h u hu herror

/-- **A text without errors that ends in a seam keeps its tokens** in front of every text. -/
theorem tokensFrom_append_of_isSeam (hc : IsSeam c) (hno : NoError (tokensFrom position (cs ++ [c])))
    (more : List Char) : tokensFrom position (cs ++ [c] ++ more) =
      lexemesFrom position (cs ++ [c]) ++ tokensFrom (position + (cs ++ [c]).length) more := by
  obtain ⟨ts, hts⟩ := hc.exists_tokens (position + cs.length)
  have hjoin : ∀ more, tokensFrom position (cs ++ c :: more) =
      lexemesFrom position cs ++ ts ++ tokensFrom (position + cs.length + 1) more := by
    intro more
    rw [tokensFrom_append (noError_of_concat hc.ne_quote hno) (hc.endsWord more), hts, List.append_assoc]
    rfl
  have hfront : lexemesFrom position (cs ++ [c]) = lexemesFrom position cs ++ ts := by
    rw [lexemesFrom, hjoin [], tokensFrom, List.dropLast_concat]
  rw [List.append_assoc, List.singleton_append, hjoin more, hfront, List.length_append, List.length_singleton,
    Nat.add_assoc]

end KanjiSearch.Lexer
