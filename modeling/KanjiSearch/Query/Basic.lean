import KanjiSearch.Field

/-!
# Queries

A query is a tree of tests on the fields of a record.
-/

namespace KanjiSearch

/-- A comparison of two numbers. -/
inductive Comparison where
  | less
  | greater
  | atMost
  | atLeast
  | equal
  deriving DecidableEq

namespace Comparison

/-- The sign of a comparison. -/
def symbol : Comparison → String
  | less => "<"
  | greater => ">"
  | atMost => "<="
  | atLeast => ">="
  | equal => "=="

/-- Whether `a` compares with `b` in this way. -/
def holds : Comparison → UInt64 → UInt64 → Bool
  | less, a, b => a < b
  | greater, a, b => b < a
  | atMost, a, b => a ≤ b
  | atLeast, a, b => b ≤ a
  | equal, a, b => a == b

end Comparison

/-- Where a text is looked for. -/
inductive Scope where
  /-- in the fields of `Field.usual` -/
  | usual
  /-- in one field -/
  | field (f : Field)
  deriving DecidableEq

/-- The name of a scope. -/
def Scope.name : Scope → String
  | usual => "default"
  | field f => f.name

/-- A query. -/
inductive Query where
  | and (left right : Query)
  | or (left right : Query)
  | not (inner : Query)
  /-- a query in parentheses -/
  | group (inner : Query)
  /-- a number of a field compared with a constant -/
  | compare (op : Comparison) (field : Field) (value : UInt64)
  /-- a number of a field between two constants, both included -/
  | range (field : Field) (min max : UInt64)
  /-- a text that stands in a field, or is the whole field if it is `exact` -/
  | search (scope : Scope) (value : String) (exact : Bool)
  deriving DecidableEq

namespace Query

/-- The query inside all parentheses around it. -/
def ungrouped : Query → Query
  | group inner => inner.ungrouped
  | q => q

end Query

end KanjiSearch
