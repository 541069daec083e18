import KanjiSearch.Query.Token
import KanjiSearch.Text.Blank
import KanjiSearch.Text.Decimal
import KanjiSearch.Text.Pieces

/-!
# Reading tokens

A query is read from left to right. At each character `scan` finds either a gap, which is skipped, or a lexeme, which
becomes a token, or a quotation without an end, which makes the rest of the query one error token. The list of tokens
always ends with the end of the query.

A backslash in a quotation means itself everywhere but in front of a quote.
-/

namespace KanjiSearch.Lexer

/-- The value of the error token for a quotation without an end. -/
def unclosedQuote : String :=
  "Unclosed quote"

/-- Whether `c` ends a bare word. -/
def isBoundary (c : Char) : Bool :=
  Text.isBlank c || ['(', ')', '|', '&', '!', '<', '>', '"', ':'].contains c

/-- The text of a quotation and the number of characters it takes, from behind its opening quote. A backslash keeps a
quote from closing the quotation. -/
def quotation : List Char → Option (List Char × Nat)
  | [] => none
  | '"' :: _ => some ([], 1)
  | '\\' :: '"' :: cs => (quotation cs).map fun (value, count) => ('"' :: value, count + 2)
  | c :: cs => (quotation cs).map fun (value, count) => (c :: value, count + 1)

/-- Whether `word` is two runs of digits with a dash between them. -/
def isRange (word : List Char) : Bool :=
  match Text.splitOnce '-' word with
  | some (low, high) => Text.isNumber low && Text.isNumber high
  | none => false

/-- The kind of a bare word. -/
def wordKind (word : List Char) : TokenKind :=
  let upper := Text.upper word
  if upper = ['A', 'N', 'D'] then .and
  else if upper = ['O', 'R'] then .or
  else if upper = ['N', 'O', 'T'] then .not
  else if isRange word then .range
  else if Text.isNumber word then .number
  else .text

/-- What a query holds at one of its characters. -/
inductive Scan where
  /-- a character that is skipped -/
  | gap
  /-- a lexeme of `extra + 1` characters -/
  | lexeme (kind : TokenKind) (value : List Char) (extra : Nat)
  /-- an opening quote without a closing one -/
  | unclosed

/-- The operator `c`, or the longer one with an equals sign behind it. -/
def scanComparison (c : Char) (short long : TokenKind) : List Char → Scan
  | '=' :: _ => .lexeme long [c, '='] 1
  | _ => .lexeme short [c] 0

/-- The word that starts with `c`: the spelling of a field if a colon follows it directly. -/
def scanWord (c : Char) (cs : List Char) : Scan :=
  let more := cs.takeWhile (!isBoundary ·)
  let word := c :: more
  match cs.drop more.length with
  | ':' :: _ =>
    let name := Text.lower word
    match Field.ofSpelling? (String.ofList name) with
    | some f => .lexeme (.field f) name (more.length + 1)
    | none => .lexeme .unknownField name (more.length + 1)
  | _ => .lexeme (wordKind word) word more.length

/-- What a query holds at the character `c`, which `cs` follows. -/
def scan (c : Char) (cs : List Char) : Scan :=
  match c with
  | '"' =>
    match quotation cs with
    | some (value, count) => .lexeme .quoted value count
    | none => .unclosed
  | '(' => .lexeme .openParen [c] 0
  | ')' => .lexeme .closeParen [c] 0
  | '&' => .lexeme .and [c] 0
  | '|' => .lexeme .or [c] 0
  | '!' => .lexeme .not [c] 0
  | '<' => scanComparison c .less .atMost cs
  | '>' => scanComparison c .greater .atLeast cs
  | ':' => .gap
  | _ => if Text.isBlank c then .gap else scanWord c cs

/-- The tokens of a text that starts at `position`. -/
def tokensFrom (position : Nat) : List Char → List Token
  | [] => [⟨.eof, "", position⟩]
  | c :: cs =>
    match scan c cs with
    | .gap => tokensFrom (position + 1) cs
    | .lexeme kind value extra =>
      ⟨kind, String.ofList value, position⟩ :: tokensFrom (position + extra + 1) (cs.drop extra)
    | .unclosed => [⟨.error, unclosedQuote, position⟩, ⟨.eof, "", position + cs.length + 1⟩]
  termination_by cs => cs.length

end KanjiSearch.Lexer

namespace KanjiSearch

/-- The tokens of a query. -/
def tokenize (query : String) : List Token :=
  Lexer.tokensFrom 0 query.toList

end KanjiSearch
