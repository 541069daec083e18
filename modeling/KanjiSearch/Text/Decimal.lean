/-!
# Decimal numbers

Unsigned 64-bit numbers in decimal. A number is read with or without a leading plus sign and with any number of leading
zeros (`count?`), and it is refused when it has no digits or does not fit.
-/

namespace KanjiSearch.Text

/-- Whether `cs` is a run of at least one digit. -/
def isNumber (cs : List Char) : Bool :=
  !cs.isEmpty && cs.all Char.isDigit

/-- The value of a run of digits. -/
def digitsValue (cs : List Char) : Nat :=
  cs.foldl (fun n c => 10 * n + (c.toNat - '0'.toNat)) 0

/-- `n` as a 64-bit number, if it is one. -/
def fit? (n : Nat) : Option UInt64 :=
  if n < UInt64.size then some (UInt64.ofNat n) else none

/-- The number that `cs` spells. -/
def count? (cs : List Char) : Option UInt64 :=
  let digits := match cs with
    | '+' :: rest => rest
    | _ => cs
  if isNumber digits then fit? (digitsValue digits) else none

/-- The decimal form of a number. -/
def decimal (n : Nat) : List Char :=
  Nat.toDigits 10 n

/-- The decimal form of a number as a string. -/
def decimalString (n : Nat) : String :=
  String.ofList (decimal n)

end KanjiSearch.Text
