import KanjiSearch.Field

/-!
# Tokens

The words and signs of a query, each with the place where it starts.
-/

namespace KanjiSearch

/-- The kinds of tokens. -/
inductive TokenKind where
  /-- a bare word -/
  | text
  /-- a text between double quotes -/
  | quoted
  /-- a run of digits -/
  | number
  /-- two runs of digits with a dash between them -/
  | range
  /-- the spelling of a field with its colon -/
  | field (f : Field)
  /-- a word with a colon that spells no field -/
  | unknownField
  | and
  | or
  | not
  | openParen
  | closeParen
  | less
  | greater
  | atMost
  | atLeast
  /-- text that is no token; the value says why -/
  | error
  /-- the end of the query -/
  | eof
  deriving DecidableEq

namespace TokenKind

/-- The name of a kind in listings. -/
def label : TokenKind → String
  | text => "TEXT"
  | quoted => "QUOTED_STRING"
  | number => "NUMBER"
  | range => "RANGE"
  | field _ => "PREFIX"
  | unknownField => "UNKNOWN_PREFIX"
  | and => "AND"
  | or => "OR"
  | not => "NOT"
  | openParen => "LPAREN"
  | closeParen => "RPAREN"
  | less => "LT"
  | greater => "GT"
  | atMost => "LTE"
  | atLeast => "GTE"
  | error => "ERROR"
  | eof => "EOF"

end TokenKind

/-- A token of a query. -/
structure Token where
  kind : TokenKind
  /-- the text of the token: of a field without the colon and in lower case, of a quotation without the quotes -/
  value : String
  /-- the number of characters before the token -/
  position : Nat
  deriving DecidableEq

/-- The text of a token in messages. -/
def Token.text (t : Token) : String :=
  match t.kind with
  | .quoted => "\"" ++ t.value ++ "\""
  | .field _ | .unknownField => t.value ++ ":"
  | .eof => "end of query"
  | _ => t.value

end KanjiSearch
