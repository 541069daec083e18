import KanjiSearch.Proofs.Lexer.FieldNames

/-!
# Gaps around a word

The characters of gaps end words and have no upper case but themselves (`IsGap.isBoundary`, `upper_gap`). A text that
reads as one bare word and nothing else is this word with gaps around it (`exists_gaps_of_tokenize`).
-/

namespace KanjiSearch

/-! ## Upper case -/

theorem Text.spelling?_eq_none {spellings : List (Nat × List Nat)} {c : Nat} (h : ∀ entry ∈ spellings, c ≠ entry.1) :
    spelling? spellings c = none := by
  induction spellings with
  | nil => rfl
  | cons entry rest ih =>
    obtain ⟨hentry, hrest⟩ := List.forall_mem_cons.mp h
    rw [spelling?]
    split
    · rfl
    · rw [if_neg (by simpa using hentry), ih hrest]

theorem Text.upperChar_of_isBlank {c : Char} (h : isBlank c = true) : upperChar c = [c] := by
  have htables : ∀ r ∈ blankRanges, (∀ entry ∈ upperSpellings, entry.1 < r.1 ∨ r.2 < entry.1) ∧
      avoids r.1 r.2 1 upperRuns = true := by decide +kernel
  obtain ⟨r, hr, hfirst, hlast⟩ := CodeRanges.exists_of_includes h
  obtain ⟨hspellings, havoids⟩ := htables r hr
  have hspelling : spelling? upperSpellings c.toNat = none := by
    refine spelling?_eq_none fun entry hentry => ?_
    have hbeside := hspellings entry hentry
    omega
  have hc : c.toNat = r.1 + (c.toNat - r.1) * 1 := by omega
  have hshifted : shifted? upperRuns c.toNat = none := by
    rw [hc]
    exact shifted?_of_avoids (hc ▸ hlast) havoids
  simp only [upperChar, recase, hspelling, hshifted]

namespace Lexer

theorem IsGap.isBoundary {c : Char} (h : IsGap c) : isBoundary c = true := by
  rcases h with hblank | rfl
  · rw [Lexer.isBoundary, hblank, Bool.true_or]
  · rfl

/-- A gap is its own upper case. -/
theorem upper_gap {gap : List Char} (h : ∀ c ∈ gap, IsGap c) : Text.upper gap = gap := by
  have hself : ∀ c ∈ gap, Text.upperChar c = [c] := by
    intro c hc
    rcases h c hc with hblank | rfl
    · exact Text.upperChar_of_isBlank hblank
    · exact Text.upperChar_of_lt (by decide)
  rw [Text.upper, List.flatMap_congr hself, List.flatMap_singleton']

/-! ## Texts of one word -/

/-- The lexeme of a text is its own value. -/
theorem Lexeme.eq_of_text {text rest value : List Char} (h : Lexeme text rest .text value) : text = value := by
  generalize hkind : TokenKind.text = kind at h
  cases h with
  | sign _ hc =>
    rcases mem_signs hc with ⟨-, rfl⟩ | ⟨-, rfl⟩ | ⟨-, rfl⟩ | ⟨-, rfl⟩ | ⟨-, rfl⟩ <;> cases hkind
  | shortComparison hc | longComparison _ hc =>
    rcases mem_comparisonSigns hc with ⟨-, rfl, rfl⟩ | ⟨-, rfl, rfl⟩ <;> cases hkind
  | word => rfl
  | field | unknownField | quotation => cases hkind

/-- A text with no token but the end is a gap. -/
theorem Layout.isGap {position : Nat} {cs : List Char} {e : Token} (h : Layout position cs [e]) :
    ∀ c ∈ cs, IsGap c := by
  cases h with
  | ending _ hgap => exact hgap
  | lexeme _ _ _ hrest => cases hrest

end Lexer

open Lexer

/-- **A text that reads as one bare word is this word with gaps around it.** -/
theorem exists_gaps_of_tokenize {text : String} {t e : Token} (htokens : tokenize text = [t, e])
    (ht : t.kind = .text) : ∃ before after, text.toList = before ++ (t.value.toList ++ after) ∧
      (∀ c ∈ before, IsGap c) ∧ ∀ c ∈ after, IsGap c := by
  have hlayout := layout_tokensFrom 0 text.toList
  rw [← tokenize, htokens] at hlayout
  generalize text.toList = cs at hlayout ⊢
  cases hlayout with
  | unclosed => cases ht
  | @lexeme _ word rest kind value _ gap hgap hlexeme hrest =>
    obtain rfl : kind = .text := ht
    obtain rfl := hlexeme.eq_of_text
    exact ⟨gap, rest, by rw [String.toList_ofList], hgap, hrest.isGap⟩

end KanjiSearch
