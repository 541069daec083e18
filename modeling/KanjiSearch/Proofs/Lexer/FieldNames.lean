import KanjiSearch.Proofs.Lexer.Layout
import KanjiSearch.Proofs.Text.LetterCase

/-!
# Fields in any letter case

The characters that end a bare word have no lower case but themselves (`lowerChar_of_isBoundary`), and they are no lower
case of others (`isBoundary_of_shifted?`). So a text is a word if its lower case is one (`isWord_of_lower`), and the
other way round (`IsWord.lower`). Hence a field is spelt by one lexeme in any case of its letters
(`lexemesFrom_fieldName`).
-/

namespace KanjiSearch

/-! ## Blanks -/

theorem CodeRanges.exists_of_includes {ranges : CodeRanges} {n : Nat} (h : ranges.includes n = true) :
    ∃ r ∈ ranges, r.1 ≤ n ∧ n ≤ r.2 := by
  induction ranges with
  | nil => cases h
  | cons r ranges ih =>
    obtain ⟨first, last⟩ := r
    rw [includes] at h
    split at h
    · cases h
    · next hfirst =>
      rcases Bool.or_eq_true_iff.mp h with hlast | hrest
      · exact ⟨_, List.mem_cons_self, Nat.le_of_not_lt hfirst, of_decide_eq_true hlast⟩
      · obtain ⟨r, hr, hn⟩ := ih hrest
        exact ⟨r, List.mem_cons_of_mem _ hr, hn⟩

theorem Text.lowerChar_of_isBlank {c : Char} (h : isBlank c = true) : lowerChar c = [c] := by
  have htables : ∀ r ∈ blankRanges, (r.2 < 0x130 ∨ 0x130 < r.1) ∧ avoids r.1 r.2 1 lowerRuns = true := by decide
  obtain ⟨r, hr, hfirst, hlast⟩ := CodeRanges.exists_of_includes h
  obtain ⟨hspelling, havoids⟩ := htables r hr
  have hc : c.toNat = r.1 + (c.toNat - r.1) * 1 := by omega
  refine lowerChar_of_none (spelling?_of_ne (by omega)) ?_
  rw [hc]
  exact shifted?_of_avoids (hc ▸ hlast) havoids

namespace Lexer

/-! ## Words -/

theorem lowerChar_of_isBoundary {c : Char} (h : isBoundary c = true) : Text.lowerChar c = [c] := by
  have hsigns : ∀ d ∈ ['(', ')', '|', '&', '!', '<', '>', '"', ':'], Text.lowerChar d = [d] := by
    simp only [List.forall_mem_cons]
    exact ⟨rfl, rfl, rfl, rfl, rfl, rfl, rfl, rfl, rfl, List.forall_mem_nil _⟩
  rcases Bool.or_eq_true_iff.mp h with hblank | hsign
  · exact Text.lowerChar_of_isBlank hblank
  · exact hsigns c (List.contains_iff_mem.mp hsign)

/-- The lower case of a text keeps all that ends words. -/
theorem mem_lowerAfter_of_isBoundary {c : Char} (hc : isBoundary c = true) {cs : List Char} (h : c ∈ cs)
    (before : List Char) : c ∈ Text.lowerAfter before cs := by
  induction cs generalizing before with
  | nil => cases h
  | cons d cs ih =>
    rw [Text.lowerAfter, List.mem_append]
    rcases List.mem_cons.mp h with rfl | h
    · have hsigma : c ≠ 'Σ' := by
        rintro rfl
        exact absurd hc (by decide)
      rw [if_neg hsigma, lowerChar_of_isBoundary hc]
      exact .inl List.mem_cons_self
    · exact .inr (ih h (d :: before))

/-- A text is a word if its lower case is one. -/
theorem isWord_of_lower {cs : List Char} (h : IsWord (Text.lower cs)) : IsWord cs := by
  refine ⟨?_, fun c hc => ?_⟩
  · rintro rfl
    exact h.1 rfl
  · by_contra hboundary
    have hmem := mem_lowerAfter_of_isBoundary (eq_true_of_ne_false hboundary) hc []
    exact hboundary (h.2 c hmem)

theorem isBeside_boundaries :
    (∀ r ∈ Text.blankRanges, Text.isBeside r.1 r.2 Text.lowerRuns = true) ∧
    ∀ d ∈ ['(', ')', '|', '&', '!', '<', '>', '"', ':'], Text.isBeside d.toNat d.toNat Text.lowerRuns = true := by
  simp only [← List.all_eq_true, ← Bool.and_eq_true]
  decide +kernel

/-- No lower case of the tables ends words. -/
theorem isBoundary_of_shifted? {c n : Nat} (h : Text.shifted? Text.lowerRuns c = some n) :
    isBoundary (Char.ofNat n) = false := by
  by_cases hvalid : n.isValidChar
  · have hcode : (Char.ofNat n).toNat = n := by rw [Char.ofNat, dif_pos hvalid]; rfl
    by_contra hboundary
    rcases Bool.or_eq_true_iff.mp (eq_true_of_ne_false hboundary) with hblank | hsign
    · obtain ⟨r, hr, hbetween⟩ := CodeRanges.exists_of_includes hblank
      rw [hcode] at hbetween
      exact Text.not_between_of_shifted? h (isBeside_boundaries.1 r hr) hbetween
    · have hbeside := isBeside_boundaries.2 _ (List.contains_iff_mem.mp hsign)
      rw [hcode] at hbeside
      exact Text.not_between_of_shifted? h hbeside ⟨Nat.le_refl n, Nat.le_refl n⟩
  · rw [Char.ofNat, dif_neg hvalid]
    decide

theorem isBoundary_of_mem_lowerChar {c d : Char} (hc : isBoundary c = false) (hd : d ∈ Text.lowerChar c) :
    isBoundary d = false := by
  rcases Text.lowerChar_cases c with h | h | ⟨n, hn, h⟩
  · rw [h, List.mem_singleton] at hd
    rwa [hd]
  · rw [h] at hd
    rcases List.mem_pair.mp hd with rfl | rfl <;> decide
  · rw [h, List.mem_singleton] at hd
    rw [hd]
    exact isBoundary_of_shifted? hn

theorem isBoundary_of_mem_lowerAfter {cs : List Char} (hcs : ∀ c ∈ cs, isBoundary c = false) {before : List Char}
    {d : Char} (hd : d ∈ Text.lowerAfter before cs) : isBoundary d = false := by
  induction cs generalizing before with
  | nil => cases hd
  | cons c cs ih =>
    obtain ⟨hc, hcs⟩ := List.forall_mem_cons.mp hcs
    rw [Text.lowerAfter, List.mem_append] at hd
    rcases hd with hd | hd
    · split at hd
      · rw [List.mem_singleton] at hd
        rw [hd]
        split <;> decide
      · exact isBoundary_of_mem_lowerChar hc hd
    · exact ih hcs hd

/-- The lower case of a word is a word. -/
theorem IsWord.lower {cs : List Char} (h : IsWord cs) : IsWord (Text.lower cs) :=
  ⟨fun hnil => h.1 (Text.lower_eq_nil_iff.mp hnil), fun _ hd => isBoundary_of_mem_lowerAfter h.2 hd⟩

/-! ## Names of fields -/

/-- The spellings of fields are words of small letters, and each spells its own field. -/
theorem of_mem_table : ∀ entry ∈ Field.table, IsWord entry.1.toList ∧ entry.1.toList.all Char.isLower = true ∧
    Text.lower entry.1.toList = entry.1.toList ∧ Field.ofSpelling? entry.1 = some entry.2 := by
  decide +kernel

/-- A name that spells a field is, in lower case, one of the words that spell it. -/
theorem exists_spelling {name : String} {f : Field} (h : Field.ofSpelling? name = some f) : ∃ spelling : String,
    Text.lower name.toList = spelling.toList ∧ IsWord spelling.toList ∧ Field.ofSpelling? spelling = some f := by
  have hmem : (Text.lowerString name, f) ∈ Field.table := by
    obtain ⟨before, after, htable, -⟩ := List.lookup_eq_some_iff.mp h
    rw [htable]
    exact List.mem_append_cons_self
  refine ⟨Text.lowerString name, String.toList_ofList.symm, ?_, ?_⟩
  · exact (of_mem_table _ hmem).1
  · rw [Field.ofSpelling?, Text.lowerString, Text.lower_lowerString]
    exact h

/-- A field in front of a text, in any case of its letters. -/
theorem lexemesFrom_fieldName {name : List Char} {f : Field} {spelling : String}
    (hname : Text.lower name = spelling.toList) (hword : IsWord spelling.toList)
    (hf : Field.ofSpelling? spelling = some f) (position : Nat) (cs : List Char) :
    lexemesFrom position (name ++ ':' :: cs) =
      ⟨.field f, spelling, position⟩ :: lexemesFrom (position + name.length + 1) cs := by
  have hlower : String.ofList (Text.lower name) = spelling := by rw [hname, String.ofList_toList]
  have hlexeme := lexemesFrom_lexeme (.field cs (isWord_of_lower (hname ▸ hword)) (hlower.symm ▸ hf)) position
  rw [hlower, List.append_assoc, List.length_append, List.length_singleton, ← Nat.add_assoc] at hlexeme
  exact hlexeme

end Lexer

end KanjiSearch
