import KanjiSearch.Proofs.Text.Digits
import KanjiSearch.Proofs.Text.Pieces
import KanjiSearch.Toml.Reader
import Mathlib.Data.List.TakeWhile

/-!
# Decimal numbers as TOML values

A word of digits could also begin a date or a float, or be an integer with needless zeros. It is none of these
(`isMoment_of_isNumber`, `float?_of_isNumber`, `integer?_decimal`), and so the decimal form of a 64-bit number is read
as this number (`value_decimal`).
-/

namespace KanjiSearch.Toml

open Text (isNumber decimal)

section Number

variable {cs : List Char}

theorem part?_eq_none {mark : Char} (h : cs.head? ≠ some mark) (max : Nat) : part? mark max cs = none := by
  cases cs with
  | nil => rfl
  | cons c cs =>
    have hc : c ≠ mark := fun hc => h (congrArg some hc)
    unfold part?
    split
    · next heq => cases heq
    · next heq =>
      cases heq
      split <;> simp [hc]

theorem suffix_of_twoDigits? {n : Nat} {rest : List Char} (h : twoDigits? cs = some (n, rest)) : rest <:+ cs := by
  unfold twoDigits? at h
  split at h
  · split at h
    · cases h
      exact ⟨[_, _], rfl⟩
    · cases h
  · cases h

theorem head?_ne_of_isDigit (mark : Char) (hmark : mark.isDigit = false) (h : ∀ c ∈ cs, c.isDigit = true) :
    cs.head? ≠ some mark := fun hc =>
  Text.ne_of_isDigit (h mark (List.mem_of_mem_head? hc)) hmark rfl

/-- A row of digits is no date and no time. -/
theorem isMoment_of_isNumber (h : isNumber cs = true) : isMoment cs = false := by
  have hdigit := (Text.isNumber_iff.mp h).2
  have hdate : afterDate? cs = none := by
    unfold afterDate?
    cases hcentury : twoDigits? cs with
    | none => rfl
    | some found =>
      obtain ⟨century, rest⟩ := found
      cases hyear : twoDigits? rest with
      | none => simp [hyear]
      | some found =>
        obtain ⟨year, rest'⟩ := found
        have hsuffix := (suffix_of_twoDigits? hyear).trans (suffix_of_twoDigits? hcentury)
        have hpart := part?_eq_none (head?_ne_of_isDigit '-' rfl fun c hc => hdigit c (hsuffix.mem hc)) 12
        simp [hyear, hpart]
  have htime : afterTime? cs = none := by
    unfold afterTime?
    cases hhour : twoDigits? cs with
    | none => rfl
    | some found =>
      obtain ⟨hour, rest⟩ := found
      have hsuffix := suffix_of_twoDigits? hhour
      have hpart := part?_eq_none (head?_ne_of_isDigit ':' rfl fun c hc => hdigit c (hsuffix.mem hc)) 59
      simp [hpart]
  simp [isMoment, hdate, htime]

theorem unsigned_of_isNumber (h : isNumber cs = true) : unsigned cs = cs := by
  obtain ⟨d, ds, rfl, hd⟩ := Text.isNumber_cons h
  unfold unsigned
  split
  · next heq => cases heq; exact absurd hd (by decide)
  · next heq => cases heq; exact absurd hd (by decide)
  · rfl

theorem ne_of_isNumber (h : isNumber cs = true) {w : List Char} (hw : isNumber w = false) : cs ≠ w := by
  rintro rfl
  cases h.symm.trans hw

/-- A row of digits is no float. -/
theorem float?_of_isNumber (h : isNumber cs = true) : float? cs = none := by
  have hmark : cs.dropWhile (fun c => !(c == 'e' || c == 'E')) = [] := by
    rw [List.dropWhile_eq_nil_iff]
    intro c hc
    have hdigit := (Text.isNumber_iff.mp h).2 c hc
    have he : c ≠ 'e' := Text.ne_of_isDigit hdigit rfl
    have hE : c ≠ 'E' := Text.ne_of_isDigit hdigit rfl
    simp [he, hE]
  have hinf : ¬ (cs = "inf".toList ∨ cs = "nan".toList) :=
    not_or.mpr ⟨ne_of_isNumber h rfl, ne_of_isNumber h rfl⟩
  have hdot := Text.splitOnce_eq_none (Text.not_mem_of_isNumber h (c := '.') rfl)
  unfold float?
  simp only [unsigned_of_isNumber h]
  rw [if_neg hinf, hmark]
  simp only [floatWith?, hdot]

theorem digits?_of_isNumber (h : isNumber cs = true) : digits? cs = some cs := by
  have hmem := Text.not_mem_of_isNumber h (c := '_') rfl
  have hungrouped : ungrouped cs = cs := List.filter_eq_self.mpr fun c hc => by
    simpa using (fun heq : c = '_' => hmem (heq ▸ hc))
  have hgrouped : isGrouped Char.isDigit cs = true := by
    simp [isGrouped, List.splitOn_eq_singleton hmem]
  simp [digits?, hungrouped, hgrouped, h]

theorem wholeDigits?_decimal (n : Nat) : wholeDigits? (decimal n) = some (decimal n) := by
  have hzero : ¬ ((decimal n).head? = some '0' ∧ decimal n ≠ ['0']) := by
    rintro ⟨hhead, hne⟩
    obtain ⟨d, ds, hcs⟩ := List.exists_cons_of_ne_nil (Text.isNumber_iff.mp (Text.isNumber_decimal n)).1
    rw [hcs] at hhead hne
    cases hhead
    exact hne (by rw [Text.eq_nil_of_decimal hcs])
  rw [wholeDigits?, if_neg hzero, digits?_of_isNumber (Text.isNumber_decimal n)]

theorem integer?_decimal (n : Nat) : integer? (decimal n) = some (ofInt n) := by
  have hnumber := Text.isNumber_decimal n
  obtain ⟨d, ds, hcs, hd⟩ := Text.isNumber_cons hnumber
  have hsecond : ∀ c : Char, c.isDigit = false → ∀ cs, decimal n ≠ '0' :: c :: cs := fun c hc cs heq =>
    absurd (Text.eq_nil_of_decimal heq) (List.cons_ne_nil _ _)
  have hsign : (decimal n).head? ≠ some '-' := by
    rw [hcs]
    rintro ⟨⟩
    exact absurd hd (by decide)
  have hdecimal : ofDecimal? (decimal n) = some (ofInt n) := by
    rw [ofDecimal?, unsigned_of_isNumber hnumber, wholeDigits?_decimal]
    simp [signedAs, hsign, Text.digitsValue_decimal]
  unfold integer?
  split
  · next heq => exact absurd heq (hsecond 'x' rfl _)
  · next heq => exact absurd heq (hsecond 'o' rfl _)
  · next heq => exact absurd heq (hsecond 'b' rfl _)
  · exact hdecimal

theorem ofInt_toNat (n : UInt64) : ofInt n.toNat = integer n.toNat := by
  have hlt : n.toNat < Nat.pow 2 128 := n.toNat_lt.trans (by decide)
  rw [ofInt, if_pos]
  exact ⟨by omega, Int.ofNat_lt.mpr hlt⟩

/-- A 64-bit number is read as itself. -/
theorem ofWord?_decimal (n : UInt64) : ofWord? (decimal n.toNat) = some (integer n.toNat) := by
  have hnumber := Text.isNumber_decimal n.toNat
  rw [ofWord?, if_neg (ne_of_isNumber hnumber rfl), if_neg (ne_of_isNumber hnumber rfl),
    isMoment_of_isNumber hnumber, float?_of_isNumber hnumber]
  simp [integer?_decimal, ofInt_toNat]

theorem isWordChar_of_isDigit {c : Char} (h : c.isDigit = true) : isWordChar c = true := by
  have hne : ∀ d : Char, d.isDigit = false → c ≠ d := fun _ => Text.ne_of_isDigit h
  simp [isWordChar, isSpace, hne]

theorem word_decimal (n : Nat) (rest : List Char) :
    word (decimal n ++ '\n' :: rest) = (decimal n, '\n' :: rest) := by
  have hword : ∀ c ∈ decimal n, isWordChar c = true := fun c hc =>
    isWordChar_of_isDigit ((Text.isNumber_iff.mp (Text.isNumber_decimal n)).2 c hc)
  rw [word, List.takeWhile_append_of_pos hword, List.dropWhile_append_of_pos hword]
  simp [isWordChar]

/-- **A 64-bit number at the end of a line is read as itself.** -/
theorem value_decimal (fuel room : Nat) (n : UInt64) (rest : List Char) :
    value (fuel + 1) room (decimal n.toNat ++ '\n' :: rest) = some (integer n.toNat, '\n' :: rest) := by
  have hscalar : scalar? (decimal n.toNat ++ '\n' :: rest) = some (integer n.toNat, '\n' :: rest) := by
    simp [scalar?, word_decimal, ofWord?_decimal]
  obtain ⟨d, ds, hcs, hd⟩ := Text.isNumber_cons (Text.isNumber_decimal n.toNat)
  have hne : ∀ c : Char, c.isDigit = false → d ≠ c := fun _ => Text.ne_of_isDigit hd
  have hopen : opening? (decimal n.toNat ++ '\n' :: rest) = none := by
    rw [hcs]
    unfold opening?
    split
    · next heq => exact absurd (List.cons.inj heq).1 (hne '"' rfl)
    · next heq => exact absurd (List.cons.inj heq).1 (hne '\'' rfl)
    · next heq => exact absurd (List.cons.inj heq).1 (hne '"' rfl)
    · next heq => exact absurd (List.cons.inj heq).1 (hne '\'' rfl)
    · rfl
  rw [value, hopen]
  · exact hscalar
  all_goals
    intro cs heq
    rw [hcs] at heq
  · exact absurd (List.cons.inj heq).1 (hne '[' rfl)
  · exact absurd (List.cons.inj heq).1 (hne '\x7b' rfl)

end Number

end KanjiSearch.Toml
