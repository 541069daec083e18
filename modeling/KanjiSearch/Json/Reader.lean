import KanjiSearch.Json.Basic
import KanjiSearch.Text.Decimal
import KanjiSearch.Text.Hexadecimal

/-!
# Reading JSON

A strict reader: no comments, no trailing commas, no control characters in strings. Strings are read as the code units
that they spell (`units`) and then paired (`textOfUnits`), since half of a surrogate pair is good JSON but no text.
-/

namespace KanjiSearch.Json

/-- The characters that may stand between the parts of a value. -/
def isSpace (c : Char) : Bool :=
  c == ' ' || c == '\n' || c == '\t' || c == '\r'

/-- A text without the space at its beginning. -/
def skipSpace (cs : List Char) : List Char :=
  cs.dropWhile isSpace

/-! ## Strings -/

/-- The character that a backslash and `c` stand for. -/
def shortEscape? (c : Char) : Option Char :=
  match c with
  | '"' => some '"'
  | '\\' => some '\\'
  | '/' => some '/'
  | 'b' => some '\x08'
  | 'f' => some '\x0c'
  | 'n' => some '\n'
  | 'r' => some '\r'
  | 't' => some '\t'
  | _ => none

/-- The code units of a string up to its closing quote, and the text behind it. -/
def units : List Char → Option (List Nat × List Char)
  | [] => none
  | '"' :: cs => some ([], cs)
  | '\\' :: 'u' :: a :: b :: c :: d :: cs =>
    match Text.hexValue? [a, b, c, d], units cs with
    | some n, some (ns, rest) => some (n :: ns, rest)
    | _, _ => none
  | '\\' :: e :: cs =>
    match shortEscape? e, units cs with
    | some c, some (ns, rest) => some (c.toNat :: ns, rest)
    | _, _ => none
  | c :: cs =>
    if c.toNat < 0x20 || c == '\\' then none
    else (units cs).map fun (ns, rest) => (c.toNat :: ns, rest)

/-- Whether a code unit is the first half of a pair. -/
def isHighHalf (n : Nat) : Bool :=
  0xD800 ≤ n && n ≤ 0xDBFF

/-- Whether a code unit is the second half of a pair. -/
def isLowHalf (n : Nat) : Bool :=
  0xDC00 ≤ n && n ≤ 0xDFFF

/-- The text that code units spell, if every half has its other half. -/
def textOfUnits : List Nat → Option (List Char)
  | [] => some []
  | n :: m :: ns =>
    if isHighHalf n then
      if isLowHalf m then
        (textOfUnits ns).map (Char.ofNat (0x10000 + 0x400 * (n - 0xD800) + (m - 0xDC00)) :: ·)
      else none
    else if isLowHalf n then none
    else (textOfUnits (m :: ns)).map (Char.ofNat n :: ·)
  | [n] => if isHighHalf n || isLowHalf n then none else some [Char.ofNat n]

/-! ## Numbers -/

/-- The digits at the beginning of a text, of which there must be one, and the text behind them. -/
def digits? (cs : List Char) : Option (List Char × List Char) :=
  match cs.takeWhile Char.isDigit with
  | [] => none
  | ds => some (ds, cs.drop ds.length)

/-- A whole number without needless zeros. -/
def wholeNumber? (cs : List Char) : Option (List Char × List Char) :=
  match digits? cs with
  | some (['0'], rest) => some (['0'], rest)
  | some ('0' :: _, _) => none
  | found => found

/-- The fraction at the beginning of a text, if there is one. -/
def fraction? : List Char → Option (List Char × List Char)
  | '.' :: cs => (digits? cs).map fun (ds, rest) => ('.' :: ds, rest)
  | cs => some ([], cs)

/-- The exponent at the beginning of a text, if there is one. -/
def exponent? : List Char → Option (List Char × List Char)
  | e :: cs =>
    if e = 'e' ∨ e = 'E' then
      match cs with
      | s :: cs' =>
        if s = '+' ∨ s = '-' then (digits? cs').map fun (ds, rest) => (e :: s :: ds, rest)
        else (digits? cs).map fun (ds, rest) => (e :: ds, rest)
      | [] => none
    else some ([], e :: cs)
  | [] => some ([], [])

/-- The number at the beginning of a text. -/
def number? (cs : List Char) : Option (Json × List Char) := do
  let (sign, cs) := match cs with
    | '-' :: rest => (['-'], rest)
    | _ => ([], cs)
  let (whole, cs) ← wholeNumber? cs
  let (fraction, cs) ← fraction? cs
  let (exponent, cs) ← exponent? cs
  match sign, fraction, exponent with
  | [], [], [] => some (natural (Text.digitsValue whole), cs)
  | _, _, _ => some (numeral (String.ofList (sign ++ whole ++ fraction ++ exponent)), cs)

/-! ## Values -/

/-- A value and the text behind it. -/
abbrev Found := Option (Json × List Char)

/-- The text `word` at the beginning of `cs`, which stands for `value`. -/
def keyword? (word : String) (value : Json) (cs : List Char) : Found :=
  if word.toList.isPrefixOf cs then some (value, cs.drop word.length) else none

/-- The string whose opening quote has been read. -/
def stringBehind (cs : List Char) : Found :=
  (units cs).map fun (ns, rest) =>
    match textOfUnits ns with
    | some text => (string (String.ofList text), rest)
    | none => (broken, rest)

/-- The object with one more member in front. -/
def withMember (key : Json) (value : Json) : Json → Json
  | object members =>
    match key with
    | string k => object ((k, value) :: members)
    | _ => broken
  | other => other

/-- The array with one more item in front. -/
def withItem (item : Json) : Json → Json
  | array items => array (item :: items)
  | other => other

mutual

/-- The value at the beginning of a text, in which at most `fuel` values and items follow one another. -/
def value : Nat → List Char → Found
  | 0, _ => none
  | fuel + 1, cs =>
    match cs with
    | '"' :: rest => stringBehind rest
    | '[' :: rest =>
      match skipSpace rest with
      | ']' :: rest => some (array [], rest)
      | rest => items fuel rest
    | '\x7b' :: rest =>
      match skipSpace rest with
      | '\x7d' :: rest => some (object [], rest)
      | rest => members fuel rest
    | 't' :: _ => keyword? "true" (bool true) cs
    | 'f' :: _ => keyword? "false" (bool false) cs
    | 'n' :: _ => keyword? "null" null cs
    | _ => number? cs

/-- The items of an array up to its end. -/
def items : Nat → List Char → Found
  | 0, _ => none
  | fuel + 1, cs =>
    match value fuel cs with
    | none => none
    | some (item, rest) =>
      match skipSpace rest with
      | ']' :: rest => some (array [item], rest)
      | ',' :: rest => (items fuel (skipSpace rest)).map fun (more, rest) => (withItem item more, rest)
      | _ => none

/-- The members of an object up to its end. -/
def members : Nat → List Char → Found
  | 0, _ => none
  | fuel + 1, cs =>
    match cs with
    | '"' :: rest =>
      match stringBehind rest with
      | none => none
      | some (key, rest) =>
        match skipSpace rest with
        | ':' :: rest =>
          match value fuel (skipSpace rest) with
          | none => none
          | some (item, rest) =>
            match skipSpace rest with
            | '\x7d' :: rest => some (withMember key item (object []), rest)
            | ',' :: rest => (members fuel (skipSpace rest)).map fun (more, rest) => (withMember key item more, rest)
            | _ => none
        | _ => none
    | _ => none

end

/-- The value that a whole text spells. -/
def read? (cs : List Char) : Option Json :=
  match value (2 * cs.length + 2) (skipSpace cs) with
  | some (j, rest) => if skipSpace rest = [] then some j else none
  | none => none

end KanjiSearch.Json
