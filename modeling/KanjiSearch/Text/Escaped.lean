import KanjiSearch.Text.Extender
import KanjiSearch.Text.Hidden

/-!
# Escaped text

Text between double quotes in which every character can be seen: quotes, backslashes and the common control characters
have short escapes, and characters that have no visible form or only alter their neighbour are written by number.
-/

namespace KanjiSearch.Text

/-- The escape that gives the number of a character. -/
def numbered (c : Char) : List Char :=
  '\\' :: 'u' :: '\x7b' :: (Nat.toDigits 16 c.toNat ++ ['\x7d'])

/-- A character as it is written in escaped text. -/
def escapedChar (c : Char) : List Char :=
  match c with
  | '\x00' => ['\\', '0']
  | '\t' => ['\\', 't']
  | '\r' => ['\\', 'r']
  | '\n' => ['\\', 'n']
  | '\\' => ['\\', '\\']
  | '"' => ['\\', '"']
  | c => if isExtender c || isHidden c then numbered c else [c]

/-- The escaped form of a text, with its quotes. -/
def escaped (cs : List Char) : List Char :=
  '"' :: (cs.flatMap escapedChar ++ ['"'])

end KanjiSearch.Text
