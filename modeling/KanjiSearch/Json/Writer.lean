import KanjiSearch.Json.Basic
import KanjiSearch.Text.Decimal
import KanjiSearch.Text.Hexadecimal

/-!
# Writing JSON

Values are written with one item or member on a line and two spaces of indentation for each level. Strings escape
quotes, backslashes and control characters, and nothing else.
-/

namespace KanjiSearch.Json

/-- A character inside a string. -/
def writtenChar (c : Char) : List Char :=
  match c with
  | '"' => ['\\', '"']
  | '\\' => ['\\', '\\']
  | '\x08' => ['\\', 'b']
  | '\x0c' => ['\\', 'f']
  | '\n' => ['\\', 'n']
  | '\r' => ['\\', 'r']
  | '\t' => ['\\', 't']
  | c =>
    if c.toNat < 0x20 then ['\\', 'u', '0', '0', Text.hexDigit (c.toNat / 16), Text.hexDigit (c.toNat % 16)]
    else [c]

/-- A string with its quotes. -/
def writtenString (s : String) : List Char :=
  '"' :: (s.toList.flatMap writtenChar ++ ['"'])

/-- A line break and the indentation of a level. -/
def newLine (level : Nat) : List Char :=
  '\n' :: List.replicate (2 * level) ' '

/-- The parts of an array or object between their brackets. -/
def writtenParts (opening closing : Char) (level : Nat) (parts : List (List Char)) : List Char :=
  match parts with
  | [] => [opening, closing]
  | _ =>
    opening :: (newLine (level + 1) ++ List.intercalate (',' :: newLine (level + 1)) parts ++ newLine level ++
      [closing])

mutual

/-- The text of a value that stands at a level. -/
def written (level : Nat) : Json → List Char
  | null => "null".toList
  | bool b => (if b then "true" else "false").toList
  | natural n => Text.decimal n
  | numeral digits => digits.toList
  | string s => writtenString s
  | array items => writtenParts '[' ']' level (writtenItems (level + 1) items)
  | object members => writtenParts '\x7b' '\x7d' level (writtenMembers (level + 1) members)
  | broken => "null".toList

/-- The texts of the items of an array. -/
def writtenItems (level : Nat) : List Json → List (List Char)
  | [] => []
  | item :: items => written level item :: writtenItems level items

/-- The texts of the members of an object. -/
def writtenMembers (level : Nat) : List (String × Json) → List (List Char)
  | [] => []
  | (key, value) :: members =>
    (writtenString key ++ [':', ' '] ++ written level value) :: writtenMembers level members

end

/-- The text of a value. -/
def pretty (j : Json) : List Char :=
  written 0 j

end KanjiSearch.Json
