import KanjiSearch.Query.Basic
import KanjiSearch.Text.Decimal
import KanjiSearch.Text.Escaped

/-!
# Outlines of queries

An outline shows the tree of a query with one line for each node, indented by two spaces for each level.
-/

namespace KanjiSearch.Query

/-- The line of a node in an outline. -/
def outlineLabel : Query → List Char
  | and _ _ => "And".toList
  | or _ _ => "Or".toList
  | not _ => "Not".toList
  | group _ => "Group".toList
  | compare op f value =>
    "Comparison(".toList ++ f.name.toList ++ [' '] ++ op.symbol.toList ++ [' '] ++ Text.decimal value.toNat ++ [')']
  | range f min max =>
    "Range(".toList ++ f.name.toList ++ [' '] ++ Text.decimal min.toNat ++ "..=".toList ++ Text.decimal max.toNat ++
      [')']
  | search scope value exact =>
    "FieldSearch(".toList ++ scope.name.toList ++ (if exact then " exact " else " contains ").toList ++
      Text.escaped value.toList ++ [')']

/-- The lines of a query and their levels below `level`. -/
def outlineLines (level : Nat) : Query → List (Nat × List Char)
  | q@(and l r) => (level, q.outlineLabel) :: (outlineLines (level + 1) l ++ outlineLines (level + 1) r)
  | q@(or l r) => (level, q.outlineLabel) :: (outlineLines (level + 1) l ++ outlineLines (level + 1) r)
  | q@(not inner) => (level, q.outlineLabel) :: outlineLines (level + 1) inner
  | q@(group inner) => (level, q.outlineLabel) :: outlineLines (level + 1) inner
  | q => [(level, q.outlineLabel)]

/-- A line of an outline. -/
def outlineLine (line : Nat × List Char) : List Char :=
  List.replicate (2 * line.1) ' ' ++ line.2

/-- The outline of a query. -/
def outline (q : Query) : List Char :=
  (outlineLines 0 q).flatMap fun line => outlineLine line ++ ['\n']

end KanjiSearch.Query
