import KanjiSearch.Text.Case
import KanjiSearch.Text.Decimal

/-!
# Runs of digits

* A text that starts with a digit keeps it in upper case (`upper_digit`), so it is no keyword.
* A run of digits reads as its value as long as this is a 64-bit number (`Denotes`, `count?_eq_some_iff`), and the
  decimal form of such a number is a run of digits with this value (`denotes_decimal`).
-/

namespace KanjiSearch.Text

/-! ## Characters below the letters with an upper case -/

theorem upperChar_of_lt {c : Char} (h : c.toNat < 0x61) : upperChar c = [c] := by
  have hs : spelling? upperSpellings c.toNat = none := by
    unfold upperSpellings
    rw [spelling?, if_pos (by omega)]
  have hr : shifted? upperRuns c.toNat = none := by
    unfold upperRuns
    rw [shifted?, if_pos h]
  simp only [upperChar, recase, hs, hr]

theorem toNat_le_of_isDigit {c : Char} (h : c.isDigit = true) : c.toNat ≤ 57 := by
  simp only [Char.isDigit, Bool.and_eq_true, decide_eq_true_eq] at h
  exact UInt32.le_iff_toNat_le.mp h.2

theorem le_toNat_of_isDigit {c : Char} (h : c.isDigit = true) : 48 ≤ c.toNat := by
  simp only [Char.isDigit, Bool.and_eq_true, decide_eq_true_eq] at h
  exact UInt32.le_iff_toNat_le.mp h.1

theorem ne_of_isDigit {d c : Char} (hd : d.isDigit = true) (hc : c.isDigit = false) : d ≠ c := by
  rintro rfl
  cases hd.symm.trans hc

/-- A digit in front of a text stays there in upper case. -/
theorem upper_digit {d : Char} (hd : d.isDigit = true) (cs : List Char) : upper (d :: cs) = d :: upper cs := by
  have := toNat_le_of_isDigit hd
  rw [upper, List.flatMap_cons, upperChar_of_lt (by omega)]
  rfl

/-! ## Numbers -/

theorem isNumber_iff {cs : List Char} : isNumber cs = true ↔ cs ≠ [] ∧ ∀ c ∈ cs, c.isDigit = true := by
  cases cs <;> simp [isNumber]

theorem isNumber_cons {cs : List Char} (h : isNumber cs = true) : ∃ d ds, cs = d :: ds ∧ d.isDigit = true := by
  obtain ⟨hne, hd⟩ := isNumber_iff.mp h
  obtain ⟨d, ds, rfl⟩ := List.exists_cons_of_ne_nil hne
  exact ⟨d, ds, rfl, hd d List.mem_cons_self⟩

theorem not_mem_of_isNumber {cs : List Char} (h : isNumber cs = true) {c : Char} (hc : c.isDigit = false) : c ∉ cs :=
  fun hm => by simp [(isNumber_iff.mp h).2 c hm] at hc

theorem isNumber_decimal (n : Nat) : isNumber (decimal n) = true :=
  isNumber_iff.mpr ⟨Nat.toDigits_ne_nil, fun _ hc => Nat.isDigit_of_mem_toDigits (by decide) (by decide) hc⟩

theorem digitsValue_decimal (n : Nat) : digitsValue (decimal n) = n :=
  Nat.ofDigitChars_ten_toDigits

theorem decimal_injective {m n : Nat} (h : decimal m = decimal n) : m = n := by
  rw [← digitsValue_decimal m, h, digitsValue_decimal]

/-- The decimal form of a number has no needless zero in front. -/
theorem eq_nil_of_decimal {n : Nat} {ds : List Char} (h : decimal n = '0' :: ds) : ds = [] := by
  unfold decimal at h
  induction n using Nat.strongRecOn generalizing ds with
  | ind n ih =>
    by_cases hn : n < 10
    · rw [Nat.toDigits_of_lt_base hn] at h
      exact (List.cons.inj h).2.symm
    · rw [Nat.toDigits_of_base_le (by decide) (by omega)] at h
      obtain ⟨d, before, hd⟩ := List.exists_cons_of_ne_nil (Nat.toDigits_ne_nil (n := n / 10) (b := 10))
      rw [hd] at h
      have hbefore := ih (n / 10) (by omega) (hd.trans (congrArg (· :: before) (List.cons.inj h).1))
      have hzero : Nat.toDigits 10 (n / 10) = ['0'] := by rw [hd, (List.cons.inj h).1, hbefore]
      have hvalue := Nat.ofDigitChars_ten_toDigits (n := n / 10)
      rw [hzero] at hvalue
      simp [Nat.ofDigitChars] at hvalue
      omega

/-- A run of digits has no sign in front. -/
theorem count?_of_isNumber {cs : List Char} (h : isNumber cs = true) : count? cs = fit? (digitsValue cs) := by
  obtain ⟨d, ds, rfl, hd⟩ := isNumber_cons h
  have hplus : d ≠ '+' := ne_of_isDigit hd rfl
  unfold count?
  split
  · next heq => cases heq; exact absurd rfl hplus
  · rw [if_pos h]

theorem fit?_eq_some_iff {m : Nat} {n : UInt64} : fit? m = some n ↔ m = n.toNat := by
  unfold fit?
  split
  · next hm =>
    rw [Option.some.injEq]
    refine ⟨fun h => ?_, fun h => ?_⟩
    · rw [← h]; exact (UInt64.toNat_ofNat_of_lt' hm).symm
    · rw [h]; exact UInt64.ofNat_toNat
  · next hm =>
    refine ⟨fun h => absurd h (by simp), fun h => absurd n.toNat_lt_size ?_⟩
    rw [← h]; exact hm

/-- `cs` is a run of digits whose value is the 64-bit number `n`. -/
structure Denotes (cs : List Char) (n : UInt64) : Prop where
  isNumber : isNumber cs = true
  value : digitsValue cs = n.toNat

/-- **A run of digits reads as the 64-bit number with its value**, and as nothing if the value does not fit. -/
theorem count?_eq_some_iff {cs : List Char} (h : isNumber cs = true) {n : UInt64} :
    count? cs = some n ↔ Denotes cs n := by
  rw [count?_of_isNumber h, fit?_eq_some_iff]
  exact ⟨fun hn => ⟨h, hn⟩, fun hn => hn.value⟩

theorem Denotes.count? {cs : List Char} {n : UInt64} (h : Denotes cs n) : count? cs = some n :=
  (count?_eq_some_iff h.isNumber).mpr h

theorem exists_denotes {cs : List Char} (h : isNumber cs = true) (hlt : digitsValue cs < UInt64.size) :
    ∃ n, Denotes cs n :=
  ⟨UInt64.ofNat (digitsValue cs), h, (UInt64.toNat_ofNat_of_lt' hlt).symm⟩

/-- A run of digits with too great a value reads as no number. -/
theorem count?_eq_none {cs : List Char} (h : isNumber cs = true) (hle : UInt64.size ≤ digitsValue cs) :
    count? cs = none := by
  rw [count?_of_isNumber h, fit?, if_neg (Nat.not_lt.mpr hle)]

theorem denotes_decimal (n : UInt64) : Denotes (decimal n.toNat) n :=
  ⟨isNumber_decimal _, digitsValue_decimal _⟩

end KanjiSearch.Text
