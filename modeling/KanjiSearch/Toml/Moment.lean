/-!
# Dates and times in TOML

A date, a time, or a date and a time with or without an offset from universal time. The seconds of a time may be left
out.
-/

namespace KanjiSearch.Toml

/-- The number that the two digits at the beginning of a text spell, and what follows them. -/
def twoDigits? : List Char → Option (Nat × List Char)
  | a :: b :: cs =>
    if a.isDigit && b.isDigit then some (10 * (a.toNat - '0'.toNat) + (b.toNat - '0'.toNat), cs) else none
  | _ => none

/-- A two-digit number of at most `max` behind the character `mark`, and what follows it. -/
def part? (mark : Char) (max : Nat) : List Char → Option (Nat × List Char)
  | [] => none
  | c :: cs =>
    match twoDigits? cs with
    | some (n, rest) => if c = mark ∧ n ≤ max then some (n, rest) else none
    | none => none

/-- The number of days in a month. -/
def daysIn (year month : Nat) : Nat :=
  match month with
  | 2 => if year % 4 = 0 ∧ (year % 100 ≠ 0 ∨ year % 400 = 0) then 29 else 28
  | 4 | 6 | 9 | 11 => 30
  | _ => 31

/-- What follows the date at the beginning of a text. -/
def afterDate? (cs : List Char) : Option (List Char) := do
  let (century, cs) ← twoDigits? cs
  let (year, cs) ← twoDigits? cs
  let (month, cs) ← part? '-' 12 cs
  let (day, cs) ← part? '-' (daysIn (100 * century + year) month) cs
  if month = 0 ∨ day = 0 then none else some cs

/-- What follows the fraction of a second at the beginning of a text. -/
def afterFraction? : List Char → Option (List Char)
  | '.' :: cs => if (cs.takeWhile Char.isDigit).isEmpty then none else some (cs.dropWhile Char.isDigit)
  | cs => some cs

/-- What follows the time at the beginning of a text. -/
def afterTime? (cs : List Char) : Option (List Char) := do
  let (hour, cs) ← twoDigits? cs
  let (_, cs) ← part? ':' 59 cs
  if 23 < hour then none
  else
    match cs with
    | ':' :: _ =>
      let (_, cs) ← part? ':' 60 cs
      afterFraction? cs
    | _ => some cs

/-- Whether a text is an offset from universal time. -/
def isOffset : List Char → Bool
  | ['Z'] | ['z'] => true
  | sign :: cs =>
    (sign == '+' || sign == '-') &&
      match twoDigits? cs with
      | some (hours, rest) =>
        match part? ':' 59 rest with
        | some (_, rest) => hours ≤ 23 && rest.isEmpty
        | none => false
      | none => false
  | [] => false

/-- Whether a text is a date. -/
def isDate (cs : List Char) : Bool :=
  afterDate? cs == some []

/-- Whether a text is a date, a time, or both. -/
def isMoment (cs : List Char) : Bool :=
  match afterDate? cs with
  | some [] => true
  | some (mark :: rest) =>
    (mark == 'T' || mark == 't' || mark == ' ') &&
      match afterTime? rest with
      | some rest => rest.isEmpty || isOffset rest
      | none => false
  | none => afterTime? cs == some []

end KanjiSearch.Toml
