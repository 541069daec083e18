import KanjiSearch.Query.Basic
import KanjiSearch.Text.Decimal

/-!
# Written queries

The text of a query in its own language. Fields have their shortest spelling, and JLPT ranks are written as levels.
-/

namespace KanjiSearch

/-- A text between double quotes, with a backslash before each quote in it. -/
def quoted (value : List Char) : List Char :=
  '"' :: (value.flatMap (fun c => if c = '"' then ['\\', '"'] else [c]) ++ ['"'])

namespace Query

/-- The spelling of a field with its colon. -/
def writtenField (f : Field) : List Char :=
  f.shortSpelling.toList ++ [':']

/-- The sign of a comparison as a query writes it: none for equality. -/
def writtenOperator : Comparison → List Char
  | .equal => []
  | op => op.symbol.toList

/-- The text of a query. -/
def written : Query → List Char
  | and l r => l.written ++ " & ".toList ++ r.written
  | or l r => l.written ++ " | ".toList ++ r.written
  | not inner => '!' :: inner.written
  | group inner => '(' :: (inner.written ++ [')'])
  | compare op f value =>
    writtenField f ++ writtenOperator op ++ (if f = .jlptLevel then ['N'] else []) ++ Text.decimal value.toNat
  | range f min max => writtenField f ++ Text.decimal min.toNat ++ ['-'] ++ Text.decimal max.toNat
  | search scope value exact =>
    (match scope with
      | .usual => []
      | .field f => writtenField f) ++
    (if exact then quoted value.toList else value.toList)

end Query

end KanjiSearch
