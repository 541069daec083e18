import KanjiSearch.Text.Decimal
import KanjiSearch.Text.Hexadecimal
import KanjiSearch.Text.Pieces
import KanjiSearch.Toml.Basic

/-!
# Numbers in TOML

Integers are decimal with or without a sign, or hexadecimal, octal or binary without one (`integer?`). Floats have a
fraction, an exponent or both (`float?`). Underscores may stand between digits. A word may have the form of a number and
still spell none, because the number is too great, has no digits, or has other characters among its decimal digits: it
is then `broken`, which matters only to a reader who asks for its value.
-/

namespace KanjiSearch.Toml

/-- Whether underscores stand only between characters of which `isDigit` holds. -/
def isGrouped (isDigit : Char → Bool) (cs : List Char) : Bool :=
  let groups := cs.splitOn '_'
  groups.tail.all (·.head?.any isDigit) && groups.dropLast.all (·.getLast?.any isDigit)

/-- A text without its underscores. -/
def ungrouped (cs : List Char) : List Char :=
  cs.filter (· != '_')

/-- The digits of a text that has at least one and otherwise only underscores between them. -/
def digits? (cs : List Char) : Option (List Char) :=
  if Text.isNumber (ungrouped cs) && isGrouped Char.isDigit cs then some (ungrouped cs) else none

/-- The digits of a decimal number without needless zeros. -/
def wholeDigits? (cs : List Char) : Option (List Char) :=
  if cs.head? = some '0' ∧ cs ≠ ['0'] then none else digits? cs

/-- A text without its sign. -/
def unsigned : List Char → List Char
  | '+' :: cs => cs
  | '-' :: cs => cs
  | cs => cs

/-- The number with the given digits, negative if `cs` starts with a minus sign. -/
def signedAs (cs digits : List Char) : Int :=
  if cs.head? = some '-' then -(Text.digitsValue digits : Int) else Text.digitsValue digits

/-! ## Integers -/

/-- The integer `n`, if it has at most 128 bits, signed or unsigned. -/
def ofInt (n : Int) : Toml :=
  if -(Nat.pow 2 127 : Int) ≤ n ∧ n < (Nat.pow 2 128 : Int) then integer n else broken

/-- Whether `c` is a digit in the given base. -/
def isDigitIn (base : Nat) (c : Char) : Bool :=
  (Text.hexDigit? c).any (· < base)

/-- The value of digits in the given base. -/
def valueIn (base : Nat) (digits : List Char) : Nat :=
  digits.foldl (fun n c => base * n + ((Text.hexDigit? c).getD 0)) 0

/-- The number in the given base that a text spells. -/
def ofDigitsIn? (base : Nat) (cs : List Char) : Option Toml :=
  if cs.isEmpty then some broken
  else if (ungrouped cs).all (isDigitIn base) && isGrouped (isDigitIn base) cs then
    some (ofInt (valueIn base (ungrouped cs)))
  else none

/-- Whether a text starts like an integer of several groups, each with a hexadecimal digit where it meets an underscore,
and none like a part of a float. -/
def hasLooseGroups (cs : List Char) : Bool :=
  let body := unsigned cs
  let rest := body.dropWhile Char.isDigit
  body.head? != some '0' && rest.head? == some '_' && !rest.any (fun c => c == '.' || c == 'e' || c == 'E') &&
    isGrouped (isDigitIn 16) cs

/-- The decimal integer that a text spells. -/
def ofDecimal? (cs : List Char) : Option Toml :=
  match wholeDigits? (unsigned cs) with
  | some digits => some (ofInt (signedAs cs digits))
  | none => if hasLooseGroups cs then some broken else none

/-- The integer that a text spells. -/
def integer? : List Char → Option Toml
  | '0' :: 'x' :: cs => ofDigitsIn? 16 cs
  | '0' :: 'o' :: cs => ofDigitsIn? 8 cs
  | '0' :: 'b' :: cs => ofDigitsIn? 2 cs
  | cs => ofDecimal? cs

/-! ## Floats -/

/-- The exponent that a text spells. -/
def exponent? (cs : List Char) : Option Int :=
  (digits? (unsigned cs)).map (signedAs cs)

/-- Whether `n` times ten to the power of `exponent` is at least the middle between the greatest 64-bit float and the
next power of two. -/
def isBeyondFloats (n : Nat) (exponent : Int) : Bool :=
  let bound := Nat.pow 2 1024 - Nat.pow 2 970
  let size := (Text.decimal n).length + exponent
  n ≠ 0 && (309 < size || size = 309 && bound * Nat.pow 10 (-exponent).toNat ≤ n * Nat.pow 10 exponent.toNat)

/-- The float with the given digits and exponent. -/
def ofParts (whole fraction : List Char) (exponent : Int) : Toml :=
  if isBeyondFloats (Text.digitsValue (whole ++ fraction)) (exponent - fraction.length) then broken else float

/-- The float that a text spells with an exponent behind it, if there is one. -/
def floatWith? (cs : List Char) (exponent : Option Int) : Option Toml :=
  match Text.splitOnce '.' cs, exponent with
  | some (whole, fraction), exponent =>
    match wholeDigits? whole, digits? fraction with
    | some whole, some fraction => some (ofParts whole fraction (exponent.getD 0))
    | _, _ => none
  | none, some exponent => (wholeDigits? cs).map fun whole => ofParts whole [] exponent
  | none, none => none

/-- The float that a text spells. -/
def float? (cs : List Char) : Option Toml :=
  let cs := unsigned cs
  let isMark (c : Char) := c == 'e' || c == 'E'
  if cs = "inf".toList ∨ cs = "nan".toList then some float
  else
    match cs.dropWhile (!isMark ·) with
    | [] => floatWith? cs none
    | _ :: rest =>
      match exponent? rest with
      | some exponent => floatWith? (cs.takeWhile (!isMark ·)) (some exponent)
      | none => none

end KanjiSearch.Toml
