import KanjiSearch.Proofs.Text.Digits
import KanjiSearch.Proofs.Text.Pieces
import KanjiSearch.Text.Escaped
import KanjiSearch.Text.Hexadecimal

/-!
# Escaped text can be read and seen

An escaped text tells which text it stands for: the first character is read back from its escape, whatever follows it
(`firstEscaped?_escapedChar`), so different texts have different escaped forms (`escaped_injective`). Every character of
an escaped text has a visible form (`isHidden_of_mem_escaped`), and the characters at which lines break have none
(`Visible.not_mem`).
-/

namespace KanjiSearch.Text

/-! ## Hexadecimal digits -/

theorem hexDigit?_digitChar {d : Nat} (h : d < 16) : hexDigit? (Nat.digitChar d) = some d := by
  have hdigits : ∀ d < 16, hexDigit? (Nat.digitChar d) = some d := by decide
  exact hdigits d h

theorem exists_digitChar {n : Nat} {c : Char} (h : c ∈ Nat.toDigits 16 n) : ∃ d < 16, c = Nat.digitChar d := by
  induction n using Nat.strongRecOn with
  | ind n ih =>
    by_cases hn : n < 16
    · rw [Nat.toDigits_of_lt_base hn] at h
      exact ⟨n, hn, List.mem_singleton.mp h⟩
    · rw [Nat.toDigits_of_base_le (by decide) (Nat.not_lt.mp hn)] at h
      rcases List.mem_append.mp h with h | h
      · exact ih (n / 16) (by omega) h
      · exact ⟨n % 16, Nat.mod_lt n (by decide), List.mem_singleton.mp h⟩

/-- A number is read back from its hexadecimal digits. -/
theorem hexValue?_toDigits (n : Nat) : hexValue? (Nat.toDigits 16 n) = some n := by
  induction n using Nat.strongRecOn with
  | ind n ih =>
    by_cases hn : n < 16
    · rw [Nat.toDigits_of_lt_base hn, hexValue?, List.foldlM_cons, hexDigit?_digitChar hn]
      simp
    · have hlast := hexDigit?_digitChar (Nat.mod_lt n (by decide : 0 < 16))
      have hbefore := ih (n / 16) (by omega)
      rw [hexValue?] at hbefore
      rw [Nat.toDigits_of_base_le (by decide) (Nat.not_lt.mp hn), hexValue?, List.foldlM_append, hbefore]
      simp [hlast, Nat.div_add_mod]

/-! ## Reading escaped text -/

/-- The character of a short escape. -/
def shortEscape? : Char → Option Char
  | '0' => some '\x00'
  | 't' => some '\t'
  | 'r' => some '\r'
  | 'n' => some '\n'
  | '\\' => some '\\'
  | '"' => some '"'
  | _ => none

/-- The first character that an escaped text stands for, and the text behind its escape. -/
def firstEscaped? : List Char → Option (Char × List Char)
  | [] => none
  | '\\' :: 'u' :: '\x7b' :: cs => do
    let (digits, rest) ← splitOnce '\x7d' cs
    let n ← hexValue? digits
    return (Char.ofNat n, rest)
  | '\\' :: c :: cs => (shortEscape? c).map fun c => (c, cs)
  | c :: cs => some (c, cs)

theorem firstEscaped?_numbered (c : Char) (rest : List Char) : firstEscaped? (numbered c ++ rest) = some (c, rest) := by
  have hdigits : '\x7d' ∉ Nat.toDigits 16 c.toNat := by
    intro h
    obtain ⟨d, hd, heq⟩ := exists_digitChar h
    have hplain : ∀ d < 16, '\x7d' ≠ Nat.digitChar d := by decide
    exact hplain d hd heq
  have hsplit := splitOnce_append hdigits rest
  simp [numbered, firstEscaped?, hsplit, hexValue?_toDigits, Char.ofNat_toNat]

/-- **Every character is read back from its escape**, whatever stands behind it. -/
theorem firstEscaped?_escapedChar (c : Char) (rest : List Char) :
    firstEscaped? (escapedChar c ++ rest) = some (c, rest) := by
  unfold escapedChar
  split
  case h_7 hbackslash _ =>
    split
    · exact firstEscaped?_numbered c rest
    · have hne : c ≠ '\\' := hbackslash
      rw [List.singleton_append, firstEscaped?]
      · rintro _ rfl
        exact absurd rfl hne
      · rintro _ _ rfl
        exact absurd rfl hne
  all_goals rfl

theorem flatMap_escapedChar_injective {cs ds : List Char} (h : cs.flatMap escapedChar = ds.flatMap escapedChar) :
    cs = ds := by
  induction cs generalizing ds with
  | nil =>
    cases ds with
    | nil => rfl
    | cons d ds =>
      have hfirst := congrArg firstEscaped? h
      rw [List.flatMap_cons, firstEscaped?_escapedChar] at hfirst
      cases hfirst
  | cons c cs ih =>
    have hfirst := congrArg firstEscaped? h
    rw [List.flatMap_cons, firstEscaped?_escapedChar] at hfirst
    cases ds with
    | nil => cases hfirst
    | cons d ds =>
      rw [List.flatMap_cons, firstEscaped?_escapedChar] at hfirst
      obtain ⟨rfl, hrest⟩ := Prod.mk.inj (Option.some.inj hfirst)
      rw [ih hrest]

/-- **Different texts have different escaped forms.** -/
theorem escaped_injective {cs ds : List Char} (h : escaped cs = escaped ds) : cs = ds :=
  flatMap_escapedChar_injective (List.append_cancel_right (List.cons.inj h).2)

/-! ## Characters that can be seen -/

/-- The characters at which a text breaks into lines. -/
def lineBreaks : List Char :=
  ['\n', '\x0b', '\x0c', '\r', '\u0085', '\u2028', '\u2029']

/-- A text of visible characters. -/
def Visible (cs : List Char) : Prop :=
  ∀ c ∈ cs, isHidden c = false

@[simp] theorem visible_nil : Visible [] := fun _ h => absurd h List.not_mem_nil

@[simp] theorem visible_cons {c : Char} {cs : List Char} : Visible (c :: cs) ↔ isHidden c = false ∧ Visible cs :=
  List.forall_mem_cons

@[simp] theorem visible_append {cs ds : List Char} : Visible (cs ++ ds) ↔ Visible cs ∧ Visible ds :=
  List.forall_mem_append

/-- A visible text does not break into lines. -/
theorem Visible.not_mem {cs : List Char} (h : Visible cs) {c : Char} (hc : c ∈ lineBreaks) : c ∉ cs := by
  have hbreaks : ∀ c ∈ lineBreaks, isHidden c = true := by
    rw [← List.all_eq_true]
    decide +kernel
  intro hmem
  cases (hbreaks c hc).symm.trans (h c hmem)

theorem isHidden_of_ascii {c : Char} (hlow : 0x20 ≤ c.toNat) (hhigh : c.toNat < 0x7F) : isHidden c = false := by
  unfold isHidden hiddenRanges
  rw [CodeRanges.includes, if_neg (Nat.not_lt_zero _), CodeRanges.includes, if_pos hhigh, Bool.or_false,
    decide_eq_false_iff_not]
  exact Nat.not_le.mpr hlow

/-- Whether `c` is a printing character of ASCII. -/
def isAscii (c : Char) : Bool :=
  0x20 ≤ c.toNat && c.toNat < 0x7F

theorem visible_of_ascii {cs : List Char} (h : cs.all isAscii = true) : Visible cs := by
  intro c hc
  have hascii := List.all_eq_true.mp h c hc
  rw [isAscii, Bool.and_eq_true, decide_eq_true_eq, decide_eq_true_eq] at hascii
  exact isHidden_of_ascii hascii.1 hascii.2

theorem visible_decimal (n : Nat) : Visible (decimal n) := by
  intro c hc
  have hdigit := (isNumber_iff.mp (isNumber_decimal n)).2 c hc
  have hlow := le_toNat_of_isDigit hdigit
  have hhigh := toNat_le_of_isDigit hdigit
  exact isHidden_of_ascii (by omega) (by omega)

theorem visible_toDigits (n : Nat) : Visible (Nat.toDigits 16 n) := by
  intro c hc
  obtain ⟨d, hd, rfl⟩ := exists_digitChar hc
  have hdigits : ∀ d < 16, 0x20 ≤ (Nat.digitChar d).toNat ∧ (Nat.digitChar d).toNat < 0x7F := by decide
  exact isHidden_of_ascii (hdigits d hd).1 (hdigits d hd).2

theorem visible_numbered (c : Char) : Visible (numbered c) := by
  have hopening : Visible ['\\', 'u', '\x7b'] := visible_of_ascii (by decide)
  have hclosing : Visible ['\x7d'] := visible_of_ascii (by decide)
  exact visible_append.mpr ⟨hopening, visible_append.mpr ⟨visible_toDigits _, hclosing⟩⟩

theorem visible_escapedChar (c : Char) : Visible (escapedChar c) := by
  unfold escapedChar
  split
  case h_7 =>
    split
    · exact visible_numbered c
    · next hplain =>
      rw [Bool.or_eq_true, not_or, Bool.not_eq_true, Bool.not_eq_true] at hplain
      exact visible_cons.mpr ⟨hplain.2, visible_nil⟩
  all_goals exact visible_of_ascii (by decide)

/-- **Every character of an escaped text is visible.** -/
theorem visible_escaped (cs : List Char) : Visible (escaped cs) := by
  have hquote : isHidden '"' = false := isHidden_of_ascii (by decide) (by decide)
  have hchars : Visible (cs.flatMap escapedChar) := by
    intro c hc
    obtain ⟨d, -, hd⟩ := List.mem_flatMap.mp hc
    exact visible_escapedChar d c hd
  simp [escaped, hquote, hchars]

end KanjiSearch.Text
