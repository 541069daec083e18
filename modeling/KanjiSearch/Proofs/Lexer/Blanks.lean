import KanjiSearch.Proofs.Lexer.Layout

/-!
# Blanks between texts

Blanks end every lexeme but an unclosed quotation, and no lexeme begins with them. So behind a text without an error
they part its tokens from those of the text that follows.

* `tokenize_blanks`: the tokens of two texts with blanks between them.
* `noError_iff_tokenize_append`: a text has no error exactly when it may be joined so with every other text.
-/

open KanjiSearch.Lexer

namespace KanjiSearch

/-- A text of one or more blanks. -/
def IsBlanks (s : String) : Prop :=
  s ≠ "" ∧ ∀ c ∈ s.toList, Text.isBlank c = true

theorem endsWord_of_isBlank {c : Char} (hc : Text.isBlank c = true) (cs : List Char) : EndsWord (c :: cs) := by
  refine endsWord_cons ?_ ?_ cs
  · simp [isBoundary, hc]
  · rintro rfl
    exact absurd hc (by decide)

theorem endsWord_blanks {v : String} (hv : IsBlanks v) (cs : List Char) : EndsWord (v.toList ++ cs) := by
  obtain ⟨c, more, hc⟩ := List.exists_cons_of_ne_nil (mt String.toList_eq_nil_iff.mp hv.1)
  rw [hc]
  exact endsWord_of_isBlank (hv.2 c (by simp [hc])) _

/-- The tokens of two texts with blanks between them. -/
theorem tokenize_blanks {a v : String} (ha : NoError (tokenize a)) (hv : IsBlanks v) (b : String) :
    tokenize (a ++ v ++ b) = (tokenize a).dropLast ++ (tokenize b).map (moved (a.length + v.length)) := by
  have hgap : ∀ c ∈ v.toList, IsGap c := fun c hc => .inl (hv.2 c hc)
  calc tokenize (a ++ v ++ b)
      = tokensFrom 0 (a.toList ++ (v.toList ++ b.toList)) := by simp [tokenize]
    _ = (tokenize a).dropLast ++ tokensFrom (0 + a.toList.length) (v.toList ++ b.toList) :=
        tokensFrom_append ha (endsWord_blanks hv _)
    _ = (tokenize a).dropLast ++ tokensFrom (0 + (a.length + v.length)) b.toList := by
        rw [tokensFrom_gap hgap, String.length_toList, String.length_toList, Nat.add_assoc]
    _ = (tokenize a).dropLast ++ (tokenize b).map (moved (a.length + v.length)) := by
        rw [tokensFrom_add]; rfl

/-- **Texts are joined at blanks, and only texts without errors are**: their tokens follow one another. -/
theorem noError_iff_tokenize_append (a : String) {w : String} (hw : IsBlanks w) :
    ∃ ts, tokenize a = ts ++ [⟨.eof, "", a.length⟩] ∧ (∀ t ∈ ts, t.kind ≠ .eof) ∧
      (NoError (tokenize a) ↔ ∀ b, tokenize (a ++ w ++ b) = ts ++ (tokenize b).map (moved (a ++ w).length)) := by
  obtain ⟨ts, hts, hend⟩ := tokensFrom_eq_append 0 a.toList
  rw [Nat.zero_add, String.length_toList] at hts
  refine ⟨ts, hts, hend, fun ha b => ?_, fun hjoin t ht hkind => ?_⟩
  · have hbefore : (tokenize a).dropLast = ts := by rw [tokenize, hts, List.dropLast_concat]
    rw [tokenize_blanks ha hw, hbefore, String.length_append]
  · have hmem : t ∈ ts := by
      rw [tokenize, hts, List.mem_append, List.mem_singleton] at ht
      rcases ht with ht | rfl
      · exact ht
      · cases hkind
    obtain ⟨before, after, rfl⟩ := List.append_of_mem hmem
    have hx := hjoin "x"
    rw [List.append_assoc, List.cons_append] at hx
    obtain ⟨-, hafter, -⟩ := eq_of_error hx hkind
    have htwo : (tokenize "x").length = 2 := by decide +kernel
    have hone := congrArg List.length hafter
    simp only [List.length_append, List.length_map, htwo, List.length_singleton] at hone
    omega

/-- A quotation that holds a quote, a sign that an equals sign would lengthen, and one behind blanks and a colon. -/
theorem noError_iff_tokenize_append_signs :
    tokenize ("\"\\\"\" <" ++ "\t\n" ++ ":=") =
      [⟨.quoted, "\"", 0⟩, ⟨.less, "<", 5⟩] ++ (tokenize ":=").map (moved 8) := by
  have hblanks : IsBlanks "\t\n" := ⟨by decide, List.all_eq_true.mp (by decide +kernel)⟩
  have ha : tokenize "\"\\\"\" <" = [⟨.quoted, "\"", 0⟩, ⟨.less, "<", 5⟩] ++ [⟨.eof, "", 6⟩] := by decide +kernel
  have hno : NoError (tokenize "\"\\\"\" <") := by rw [ha]; unfold NoError; decide
  obtain ⟨ts, hts, -, hjoin⟩ := noError_iff_tokenize_append "\"\\\"\" <" hblanks
  obtain rfl : ts = [⟨.quoted, "\"", 0⟩, ⟨.less, "<", 5⟩] := List.append_inj_left' (hts.symm.trans ha) rfl
  exact hjoin.mp hno ":="

end KanjiSearch
