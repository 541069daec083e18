import KanjiSearch.Query.Token
import KanjiSearch.Text.Decimal
import KanjiSearch.Text.Pieces

/-!
# Syntax errors

What may be wrong with a query, the message for each fault, and hints for common mistakes.
-/

namespace KanjiSearch

/-- An operator that joins or negates queries. -/
inductive Connective where
  | and
  | or
  | not
  deriving DecidableEq

/-- The keyword of a connective. -/
def Connective.keyword : Connective → String
  | and => "AND"
  | or => "OR"
  | not => "NOT"

/-- What is wrong with a query. -/
inductive Fault where
  /-- a fault that comes with its own message -/
  | stated (message : String)
  /-- a token behind the end of a whole query -/
  | unexpected (token : Token)
  | missingOperand (after : Connective)
  | unknownField (name : String)
  | emptyGroup
  | unclosedGroup
  | nestedTooDeeply
  /-- a field that takes a text has none; the name is the field's spelling -/
  | missingValue (spelling : String)
  | missingNumber
  | invalidNumber (digits : String)
  | missingLevel
  | invalidLevel (level : String)
  deriving DecidableEq

/-- The message of a fault. -/
def Fault.message : Fault → String
  | stated message => message
  | unexpected token => "Unexpected token: " ++ token.text
  | missingOperand after => "Expected expression after " ++ after.keyword ++ " operator"
  | unknownField name => "Unknown prefix: " ++ name
  | emptyGroup => "Expected expression inside parentheses"
  | unclosedGroup => "Expected closing parenthesis"
  | nestedTooDeeply => "Query nested too deeply"
  | missingValue spelling => "Expected value after " ++ spelling ++ ":"
  | missingNumber => "Expected number after comparison operator"
  | invalidNumber digits => "Invalid number: " ++ digits
  | missingLevel => "Expected JLPT level (e.g., N3) after comparison operator"
  | invalidLevel level => "Invalid JLPT level: " ++ level ++ ". Use N1-N5"

/-- A fault and the place where it was found. -/
structure SyntaxError where
  fault : Fault
  /-- the number of characters before the place -/
  position : Nat
  /-- the token at the place, if one is known -/
  token : Option Token
  deriving DecidableEq

namespace SyntaxError

/-- A fault found at a token. -/
def on (fault : Fault) (t : Token) : SyntaxError :=
  ⟨fault, t.position, some t⟩

/-- The message of an error. -/
def message (e : SyntaxError) : String :=
  e.fault.message

/-- The error in one line. -/
def line (e : SyntaxError) : String :=
  e.message ++ " (at position " ++ Text.decimalString e.position ++ ")"

end SyntaxError

/-! ## Hints -/

/-- The hint for a message, which is found by what the message says. -/
def hint? (message : String) : Option String :=
  let holds (piece : String) := Text.hasPiece piece.toList message.toList
  let begins (piece : String) := piece.toList.isPrefixOf message.toList
  if holds "Unclosed quote" then
    some "Add a closing quote (\") to complete the phrase"
  else if holds "closing parenthesis" then
    some "Add a closing parenthesis ) to match the opening one"
  else if holds "AND operator" || holds "OR operator" then
    some "AND and OR need expressions on both sides, e.g. 'en:fire | en:water'"
  else if holds "NOT operator" then
    some "NOT must be followed by a term, e.g. '!jlpt:N1'"
  else if begins "Unknown prefix" then
    some "Valid prefixes are: char, hv, en, vn, on, kun, com, jlpt, freq"
  else if begins "Invalid JLPT level" || holds "JLPT level (" then
    some "JLPT levels are written N1 (hardest) to N5 (easiest), e.g. 'jlpt:<N3'"
  else if holds "number after comparison" then
    some "Frequency comparisons take a number, e.g. 'freq:<500'"
  else none

/-- The hint for an error. -/
def SyntaxError.hint? (e : SyntaxError) : Option String :=
  KanjiSearch.hint? e.message

end KanjiSearch
