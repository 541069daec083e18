/-!
# Styled text

Colours and weights of terminal text as escape sequences.
-/

namespace KanjiSearch.Terminal

/-- The ways in which a text can be set off. -/
inductive Style where
  | header
  | subheader
  | dim
  | success
  | warning
  | error
  /-- a character that is pointed out -/
  | marked
  deriving DecidableEq

/-- The escape sequence that selects attribute `code`. -/
def sequence (code : String) : String :=
  "\x1b[" ++ code ++ "m"

/-- The escape sequences that begin a style. -/
def Style.start : Style → String
  | header => sequence "1" ++ sequence "36"
  | subheader => sequence "1"
  | dim => sequence "2"
  | success => sequence "32"
  | warning => sequence "33"
  | error => sequence "31"
  | marked => sequence "1" ++ sequence "31"

/-- The escape sequence that ends every style. -/
def reset : String :=
  sequence "0"

/-- A text in a style. -/
def Style.apply (style : Style) (text : String) : String :=
  style.start ++ text ++ reset

end KanjiSearch.Terminal
