import KanjiSearch.Json.Reader
import KanjiSearch.Json.Writer
import KanjiSearch.Proofs.Lists
import KanjiSearch.Proofs.Text.Digits
import Mathlib.Data.List.TakeWhile

/-!
# JSON values survive being written

Values whose numbers are whole and whose strings are texts (`IsPlain`) are read from their written form, whatever
follows it, unless that could be part of a number (`EndsNumber`).

* `units_writtenChars`, `textOfUnits_toNat`: strings, as the code units that they spell.
* `number?_decimal`: whole numbers.
* `reads_array`, `reads_object`: values in brackets, by the values in them.
* `read?_written`: the whole text of a value.
-/

namespace KanjiSearch.Json

/-! ## Strings -/

/-- The digits of a control character spell its number. -/
theorem hexValue?_control : ∀ n < 0x20,
    Text.hexValue? ['0', '0', Text.hexDigit (n / 16), Text.hexDigit (n % 16)] = some n := by
  decide

/-- A character that is neither a quote nor a backslash nor a control character spells itself. -/
theorem units_plain {c : Char} (hquote : c ≠ '"') (hbackslash : c ≠ '\\') (hcontrol : ¬ c.toNat < 0x20)
    (cs : List Char) : units (c :: cs) = (units cs).map fun (ns, rest) => (c.toNat :: ns, rest) := by
  have hplain : ¬ (decide (c.toNat < 0x20) || c == '\\') = true := by simp [hcontrol, hbackslash]
  rw [units.eq_def]
  split
  · next h => cases h
  · next h => exact absurd (List.cons.inj h).1 hquote
  · next h => exact absurd (List.cons.inj h).1 hbackslash
  · next h => exact absurd (List.cons.inj h).1 hbackslash
  · next h =>
    cases h
    rw [if_neg hplain]

/-- A short escape spells its character. -/
theorem units_short {e c : Char} (he : shortEscape? e = some c) (cs : List Char) :
    units ('\\' :: e :: cs) = (units cs).map fun (ns, rest) => (c.toNat :: ns, rest) := by
  rw [units.eq_def]
  split
  · next h => cases h
  · next h => cases (List.cons.inj h).1
  · next h => cases h; cases he
  · next h =>
    cases h
    rw [he]
    cases units cs <;> rfl
  · next h hlast =>
    cases hlast
    exact (h e cs rfl rfl).elim

theorem units_writtenChar (c : Char) (cs : List Char) :
    units (writtenChar c ++ cs) = (units cs).map fun (ns, rest) => (c.toNat :: ns, rest) := by
  unfold writtenChar
  split
  case h_8 hquote hbackslash _ _ _ _ _ =>
    split
    · next hcontrol =>
      have hdigits := hexValue?_control c.toNat hcontrol
      simp only [List.cons_append, List.nil_append, units, hdigits]
      cases units cs <;> rfl
    · next hcontrol => exact units_plain hquote hbackslash hcontrol cs
  all_goals exact units_short rfl cs

/-- A written string spells the code points of its characters. -/
theorem units_writtenChars (cs rest : List Char) :
    units (cs.flatMap writtenChar ++ '"' :: rest) = some (cs.map Char.toNat, rest) := by
  induction cs with
  | nil => rfl
  | cons c cs ih => rw [List.flatMap_cons, List.append_assoc, units_writtenChar, ih]; rfl

/-- No character is half of a pair. -/
theorem isHalf_toNat (c : Char) : isHighHalf c.toNat = false ∧ isLowHalf c.toNat = false := by
  have hvalid : c.toNat < 0xD800 ∨ 0xDFFF < c.toNat ∧ c.toNat < 0x110000 := c.valid
  simp only [isHighHalf, isLowHalf, Bool.and_eq_false_iff, decide_eq_false_iff_not]
  omega

theorem textOfUnits_toNat (cs : List Char) : textOfUnits (cs.map Char.toNat) = some cs := by
  induction cs with
  | nil => rfl
  | cons c cs ih =>
    obtain ⟨hhigh, hlow⟩ := isHalf_toNat c
    cases cs with
    | nil => simp [textOfUnits, hhigh, hlow, Char.ofNat_toNat]
    | cons d cs =>
      rw [List.map_cons] at ih
      simp [textOfUnits, hhigh, hlow, ih, Char.ofNat_toNat]

theorem stringBehind_writtenChars (s : String) (rest : List Char) :
    stringBehind (s.toList.flatMap writtenChar ++ '"' :: rest) = some (string s, rest) := by
  simp only [stringBehind, units_writtenChars, Option.map_some, textOfUnits_toNat, String.ofList_toList]

/-! ## Numbers -/

/-- A text that cannot go on with a number before it. -/
def EndsNumber (cs : List Char) : Prop :=
  ∀ c ∈ cs.head?, c.isDigit = false ∧ c ≠ '.' ∧ c ≠ 'e' ∧ c ≠ 'E'

theorem digits?_append {ds rest : List Char} (hds : Text.isNumber ds = true) (hrest : EndsNumber rest) :
    digits? (ds ++ rest) = some (ds, rest) := by
  obtain ⟨hne, hdigits⟩ := Text.isNumber_iff.mp hds
  have hspan : (ds ++ rest).takeWhile Char.isDigit = ds :=
    takeWhile_append_eq hdigits fun c hc => (hrest c hc).1
  obtain ⟨d, ds', rfl⟩ := List.exists_cons_of_ne_nil hne
  rw [digits?, hspan]
  simp

theorem wholeNumber?_decimal (n : Nat) {rest : List Char} (hrest : EndsNumber rest) :
    wholeNumber? (Text.decimal n ++ rest) = some (Text.decimal n, rest) := by
  rw [wholeNumber?, digits?_append (Text.isNumber_decimal n) hrest]
  split
  · next h => rw [h]
  · next hne h =>
    obtain ⟨hdecimal, -⟩ := Prod.mk.inj (Option.some.inj h)
    have hnil := Text.eq_nil_of_decimal hdecimal
    subst hnil
    exact (hne rfl).elim
  · rfl

theorem fraction?_of_ends {rest : List Char} (hrest : EndsNumber rest) : fraction? rest = some ([], rest) := by
  unfold fraction?
  split
  · exact absurd rfl (hrest '.' rfl).2.1
  · rfl

theorem exponent?_of_ends {rest : List Char} (hrest : EndsNumber rest) : exponent? rest = some ([], rest) := by
  cases rest with
  | nil => rfl
  | cons c rest =>
    obtain ⟨-, -, he, hE⟩ := hrest c rfl
    simp only [exponent?, if_neg (not_or.mpr ⟨he, hE⟩)]

theorem number?_decimal (n : Nat) {rest : List Char} (hrest : EndsNumber rest) :
    number? (Text.decimal n ++ rest) = some (natural n, rest) := by
  obtain ⟨d, ds, hdecimal, hd⟩ := Text.isNumber_cons (Text.isNumber_decimal n)
  have hsign : d ≠ '-' := Text.ne_of_isDigit hd rfl
  have hwhole := wholeNumber?_decimal n hrest
  unfold number?
  rw [hdecimal] at hwhole ⊢
  split
  next sign digits heq =>
    split at heq
    · next h => exact absurd (List.cons.inj h).1 hsign
    · cases heq
      simp only [hwhole, fraction?_of_ends hrest, exponent?_of_ends hrest, Option.bind_eq_bind, Option.bind_some]
      rw [← hdecimal, Text.digitsValue_decimal]

/-! ## Space -/

theorem skipSpace_cons {c : Char} (hc : isSpace c = false) (cs : List Char) : skipSpace (c :: cs) = c :: cs :=
  List.dropWhile_cons_of_neg (by simp [hc])

theorem skipSpace_newLine (level : Nat) {c : Char} (hc : isSpace c = false) (cs : List Char) :
    skipSpace (newLine level ++ c :: cs) = c :: cs := by
  have hspace : ∀ d ∈ newLine level, isSpace d = true := fun d hd => by
    rcases List.mem_cons.mp hd with rfl | hd
    · rfl
    · rw [List.eq_of_mem_replicate hd]
      rfl
  rw [skipSpace, List.dropWhile_append_of_pos hspace]
  exact skipSpace_cons hc cs

/-! ## Values -/

/-- The value has whole numbers only, and all its strings are texts. -/
inductive IsPlain : Json → Prop where
  | null : IsPlain null
  | bool (b : Bool) : IsPlain (bool b)
  | natural (n : Nat) : IsPlain (natural n)
  | string (s : String) : IsPlain (string s)
  | array {items : List Json} (h : ∀ j ∈ items, IsPlain j) : IsPlain (array items)
  | object {members : List (String × Json)} (h : ∀ m ∈ members, IsPlain m.2) : IsPlain (object members)

variable {j : Json}

/-- The value is read from its written form, whatever comes behind it. -/
def Reads (j : Json) : Prop :=
  ∀ level fuel rest, (written level j).length ≤ fuel → EndsNumber rest →
    value fuel (written level j ++ rest) = some (j, rest)

/-- A written value starts with neither a space nor a closing bracket. -/
theorem exists_written_cons (h : IsPlain j) (level : Nat) :
    ∃ c cs, written level j = c :: cs ∧ isSpace c = false ∧ c ≠ ']' := by
  cases h with
  | null => exact ⟨'n', _, rfl, rfl, by decide⟩
  | bool b => cases b <;> exact ⟨_, _, rfl, rfl, by decide⟩
  | natural n =>
    obtain ⟨d, ds, hdecimal, hd⟩ := Text.isNumber_cons (Text.isNumber_decimal n)
    have hne : ∀ c : Char, c.isDigit = false → d ≠ c := fun _ => Text.ne_of_isDigit hd
    exact ⟨d, ds, hdecimal, by simp [isSpace, hne], hne ']' rfl⟩
  | string s => exact ⟨'"', _, rfl, rfl, by decide⟩
  | @array items h => cases items <;> exact ⟨'[', _, rfl, rfl, by decide⟩
  | @object members h => cases members <;> exact ⟨'\x7b', _, rfl, rfl, by decide⟩

theorem value_of_digit {d : Char} (hd : d.isDigit = true) (fuel : Nat) (cs : List Char) :
    value (fuel + 1) (d :: cs) = number? (d :: cs) := by
  rw [value]
  all_goals
    intro rest h
    cases h
    cases hd

theorem reads_natural (n : Nat) : Reads (natural n) := by
  intro level fuel rest hfuel hrest
  obtain ⟨d, ds, hdecimal, hd⟩ := Text.isNumber_cons (Text.isNumber_decimal n)
  have hwritten : written level (natural n) = Text.decimal n := rfl
  have hnumber := number?_decimal n hrest
  rw [hwritten] at hfuel ⊢
  rw [hdecimal] at hfuel hnumber ⊢
  obtain ⟨fuel, rfl⟩ := Nat.exists_eq_add_one_of_ne_zero (Nat.ne_zero_of_lt hfuel)
  exact (value_of_digit hd fuel _).trans hnumber

theorem reads_string (s : String) : Reads (string s) := by
  intro level fuel rest hfuel hrest
  have hwritten : written level (string s) = '"' :: (s.toList.flatMap writtenChar ++ ['"']) := rfl
  rw [hwritten] at hfuel ⊢
  obtain ⟨fuel, rfl⟩ := Nat.exists_eq_add_one_of_ne_zero (Nat.ne_zero_of_lt hfuel)
  rw [List.cons_append, List.append_assoc, value]
  exact stringBehind_writtenChars s rest

theorem reads_null : Reads null := by
  intro level fuel rest hfuel hrest
  obtain ⟨fuel, rfl⟩ := Nat.exists_eq_add_one_of_ne_zero (Nat.ne_zero_of_lt hfuel)
  rfl

theorem reads_bool (b : Bool) : Reads (bool b) := by
  intro level fuel rest hfuel hrest
  cases b <;>
  · obtain ⟨fuel, rfl⟩ := Nat.exists_eq_add_one_of_ne_zero (Nat.ne_zero_of_lt hfuel)
    rfl

/-! ## Values in brackets -/

theorem endsNumber_cons {c : Char} (h : c.isDigit = false ∧ c ≠ '.' ∧ c ≠ 'e' ∧ c ≠ 'E') (cs : List Char) :
    EndsNumber (c :: cs) := by
  intro d hd
  cases hd
  exact h

/-- Joined parts start as the first one does. -/
theorem exists_intercalate_cons (sep : List Char) {part cs : List Char} {c : Char} (h : part = c :: cs)
    (parts : List (List Char)) : ∃ cs', List.intercalate sep (part :: parts) = c :: cs' := by
  subst h
  cases parts with
  | nil => exact ⟨cs, List.intercalate_singleton⟩
  | cons next parts =>
    exact ⟨cs ++ sep ++ sep.intercalate (next :: parts), List.intercalate_cons_of_ne_nil (List.cons_ne_nil _ _)⟩

/-- The items of an array are read up to its end, if each of them is read. -/
theorem items_written {item : Json} {more : List Json} (h : ∀ j ∈ item :: more, j.IsPlain ∧ Reads j)
    {level fuel : Nat} (below : Nat) (rest : List Char)
    (hfuel : (List.intercalate (',' :: newLine level) (writtenItems level (item :: more))).length < fuel) :
    items fuel (List.intercalate (',' :: newLine level) (writtenItems level (item :: more)) ++
      (newLine below ++ ']' :: rest)) = some (array (item :: more), rest) := by
  obtain ⟨fuel, rfl⟩ := Nat.exists_eq_add_one_of_ne_zero (Nat.ne_zero_of_lt hfuel)
  induction more generalizing item fuel with
  | nil =>
    obtain ⟨-, hitem⟩ := h item List.mem_cons_self
    rw [writtenItems, writtenItems, List.intercalate_singleton] at hfuel ⊢
    have hvalue := hitem level fuel (newLine below ++ ']' :: rest) (Nat.le_of_lt_succ hfuel)
      (endsNumber_cons (by decide) _)
    rw [items, hvalue]
    dsimp only
    rw [skipSpace_newLine _ rfl]
    rfl
  | cons next more ih =>
    obtain ⟨⟨-, hitem⟩, hmore⟩ := List.forall_mem_cons.mp h
    rw [writtenItems, List.intercalate_cons_of_ne_nil (by simp [writtenItems])] at hfuel ⊢
    obtain ⟨c, cs, hnext, hspace, -⟩ := exists_written_cons (hmore next List.mem_cons_self).1 level
    obtain ⟨cs', htail⟩ := exists_intercalate_cons (',' :: newLine level) hnext (writtenItems level more)
    simp only [List.length_append, List.length_cons] at hfuel
    obtain ⟨fuel, rfl⟩ := Nat.exists_eq_add_one_of_ne_zero (n := fuel) (by omega)
    have hmore' := ih hmore fuel (by omega)
    rw [writtenItems, htail] at hmore' ⊢
    have hvalue := hitem level (fuel + 1) (',' :: (newLine level ++ (c :: cs' ++ (newLine below ++ ']' :: rest))))
      (by omega) (endsNumber_cons (by decide) _)
    simp only [List.append_assoc, List.cons_append] at hvalue hmore' ⊢
    rw [items, hvalue]
    dsimp only
    rw [skipSpace_cons rfl]
    change (items (fuel + 1) (skipSpace (newLine level ++ c :: _))).map _ = _
    rw [skipSpace_newLine _ hspace, hmore']
    rfl

theorem reads_array {items : List Json} (h : ∀ j ∈ items, j.IsPlain ∧ Reads j) : Reads (array items) := by
  intro level fuel rest hfuel hrest
  cases items with
  | nil =>
    obtain ⟨fuel, rfl⟩ := Nat.exists_eq_add_one_of_ne_zero (Nat.ne_zero_of_lt hfuel)
    rfl
  | cons item more =>
    obtain ⟨c, cs, hitem, hspace, hclosing⟩ := exists_written_cons (h item List.mem_cons_self).1 (level + 1)
    obtain ⟨cs', hstart⟩ := exists_intercalate_cons (',' :: newLine (level + 1)) hitem (writtenItems (level + 1) more)
    have hwritten : written level (array (item :: more)) = '[' :: (newLine (level + 1) ++
        List.intercalate (',' :: newLine (level + 1)) (writtenItems (level + 1) (item :: more)) ++ newLine level ++
          [']']) := rfl
    rw [hwritten] at hfuel ⊢
    simp only [List.length_cons, List.length_append] at hfuel
    obtain ⟨fuel, rfl⟩ := Nat.exists_eq_add_one_of_ne_zero (n := fuel) (by omega)
    have hitems := @items_written item more h (level + 1) fuel level rest (by omega)
    rw [writtenItems, hstart] at hitems ⊢
    simp only [List.append_assoc, List.cons_append, List.nil_append] at hitems ⊢
    rw [value, skipSpace_newLine _ hspace]
    split
    · next h => exact absurd (List.cons.inj h).1 hclosing
    · exact hitems

/-- A member in front of other text: its key and value are read, and what comes behind decides. -/
theorem members_step (key : String) {item : Json} (hplain : item.IsPlain) (hitem : Reads item) (level fuel : Nat)
    (tail : List Char) (hfuel : (written level item).length ≤ fuel) (htail : EndsNumber tail) :
    members (fuel + 1) (writtenString key ++ [':', ' '] ++ written level item ++ tail) =
      match skipSpace tail with
      | '\x7d' :: rest => some (object [(key, item)], rest)
      | ',' :: rest => (members fuel (skipSpace rest)).map fun (more, rest) => (withMember (string key) item more, rest)
      | _ => none := by
  obtain ⟨c, cs, hstart, hspace, -⟩ := exists_written_cons hplain level
  have hkey := stringBehind_writtenChars key (':' :: ' ' :: (written level item ++ tail))
  have hvalue : value fuel (skipSpace (' ' :: (written level item ++ tail))) = some (item, tail) := by
    have hskip : skipSpace (' ' :: (written level item ++ tail)) = written level item ++ tail := by
      rw [hstart]
      exact skipSpace_cons hspace _
    rw [hskip]
    exact hitem level fuel tail hfuel htail
  simp only [writtenString, List.append_assoc, List.cons_append, List.nil_append] at hkey ⊢
  rw [members, hkey]
  dsimp only
  rw [skipSpace_cons rfl]
  split
  · next h =>
    cases h
    rw [hvalue]
    rfl
  · next h => exact absurd rfl (h _)

/-- The members of an object are read up to its end, if the value of each of them is read. -/
theorem members_written {key : String} {item : Json} {more : List (String × Json)}
    (h : ∀ m ∈ (key, item) :: more, m.2.IsPlain ∧ Reads m.2) {level fuel : Nat} (below : Nat) (rest : List Char)
    (hfuel : (List.intercalate (',' :: newLine level) (writtenMembers level ((key, item) :: more))).length < fuel) :
    members fuel (List.intercalate (',' :: newLine level) (writtenMembers level ((key, item) :: more)) ++
      (newLine below ++ '\x7d' :: rest)) = some (object ((key, item) :: more), rest) := by
  obtain ⟨fuel, rfl⟩ := Nat.exists_eq_add_one_of_ne_zero (Nat.ne_zero_of_lt hfuel)
  induction more generalizing key item fuel with
  | nil =>
    obtain ⟨hplain, hitem⟩ : item.IsPlain ∧ Reads item := h (key, item) List.mem_cons_self
    rw [writtenMembers, writtenMembers, List.intercalate_singleton] at hfuel ⊢
    simp only [List.length_append] at hfuel
    have hstep := members_step key hplain hitem level fuel (newLine below ++ '\x7d' :: rest)
      (by omega) (endsNumber_cons (by decide) _)
    rw [hstep, skipSpace_newLine _ rfl]
    rfl
  | cons next more ih =>
    obtain ⟨hplain, hitem⟩ : item.IsPlain ∧ Reads item := h (key, item) List.mem_cons_self
    have hmore := (List.forall_mem_cons.mp h).2
    obtain ⟨nextKey, nextItem⟩ := next
    rw [writtenMembers, List.intercalate_cons_of_ne_nil (by simp [writtenMembers])] at hfuel ⊢
    simp only [List.length_append, List.length_cons] at hfuel
    obtain ⟨fuel, rfl⟩ := Nat.exists_eq_add_one_of_ne_zero (n := fuel) (by omega)
    have hmore' := ih hmore fuel (by omega)
    have hquote : writtenString nextKey ++ [':', ' '] ++ written level nextItem =
        '"' :: (nextKey.toList.flatMap writtenChar ++ ['"'] ++ [':', ' '] ++ written level nextItem) := rfl
    obtain ⟨cs, htail⟩ := exists_intercalate_cons (',' :: newLine level) hquote (writtenMembers level more)
    rw [writtenMembers, htail] at hmore' ⊢
    have hstep := members_step key hplain hitem level (fuel + 1)
      (',' :: (newLine level ++ ('"' :: cs ++ (newLine below ++ '\x7d' :: rest)))) (by omega)
      (endsNumber_cons (by decide) _)
    simp only [List.append_assoc, List.cons_append] at hstep hmore' ⊢
    rw [hstep, skipSpace_cons rfl]
    change (members (fuel + 1) (skipSpace (newLine level ++ '"' :: _))).map _ = _
    rw [skipSpace_newLine _ rfl, hmore']
    rfl

theorem reads_object {members : List (String × Json)} (h : ∀ m ∈ members, m.2.IsPlain ∧ Reads m.2) :
    Reads (object members) := by
  intro level fuel rest hfuel hrest
  cases members with
  | nil =>
    obtain ⟨fuel, rfl⟩ := Nat.exists_eq_add_one_of_ne_zero (Nat.ne_zero_of_lt hfuel)
    rfl
  | cons m more =>
    obtain ⟨key, item⟩ := m
    have hquote : writtenString key ++ [':', ' '] ++ written (level + 1) item =
        '"' :: (key.toList.flatMap writtenChar ++ ['"'] ++ [':', ' '] ++ written (level + 1) item) := rfl
    obtain ⟨cs, hstart⟩ := exists_intercalate_cons (',' :: newLine (level + 1)) hquote (writtenMembers (level + 1) more)
    have hwritten : written level (object ((key, item) :: more)) = '\x7b' :: (newLine (level + 1) ++
        List.intercalate (',' :: newLine (level + 1)) (writtenMembers (level + 1) ((key, item) :: more)) ++
          newLine level ++ ['\x7d']) := rfl
    rw [hwritten] at hfuel ⊢
    simp only [List.length_cons, List.length_append] at hfuel
    obtain ⟨fuel, rfl⟩ := Nat.exists_eq_add_one_of_ne_zero (n := fuel) (by omega)
    have hmembers := @members_written key item more h (level + 1) fuel level rest (by omega)
    rw [writtenMembers, hstart] at hmembers ⊢
    simp only [List.append_assoc, List.cons_append, List.nil_append] at hmembers ⊢
    rw [value, skipSpace_newLine _ rfl]
    exact hmembers

/-! ## Whole texts -/

/-- **A plain value is read from its written form.** -/
theorem IsPlain.reads (h : IsPlain j) : Reads j := by
  induction h with
  | null => exact reads_null
  | bool b => exact reads_bool b
  | natural n => exact reads_natural n
  | string s => exact reads_string s
  | array h ih => exact reads_array fun j hj => ⟨h j hj, ih j hj⟩
  | object h ih => exact reads_object fun m hm => ⟨h m hm, ih m hm⟩

/-- A plain value is the one that its written form spells, with any space behind it. -/
theorem read?_written (h : IsPlain j) (level : Nat) {space : List Char} (hspace : ∀ c ∈ space, isSpace c = true) :
    read? (written level j ++ space) = some j := by
  obtain ⟨c, cs, hstart, hc, -⟩ := exists_written_cons h level
  have hskip : skipSpace (written level j ++ space) = written level j ++ space := by
    rw [hstart]
    exact skipSpace_cons hc _
  have hrest : EndsNumber space := fun d hd => by
    have hd' := hspace d (List.mem_of_mem_head? hd)
    simp only [isSpace, Bool.or_eq_true, beq_iff_eq] at hd'
    rcases hd' with ((rfl | rfl) | rfl) | rfl <;> decide
  have hvalue := h.reads level (2 * (written level j ++ space).length + 2) space (by simp; omega) hrest
  have hnone : skipSpace space = [] := List.dropWhile_eq_nil_iff.mpr hspace
  rw [read?, hskip, hvalue]
  simp only [hnone, if_true]

end KanjiSearch.Json
