import KanjiSearch.Json.Basic
import KanjiSearch.Query.Basic
import KanjiSearch.Query.SyntaxError

/-!
# Queries as JSON

The JSON forms of tokens, syntax errors and queries.
-/

namespace KanjiSearch

/-- The JSON form of a kind of token. -/
def TokenKind.toJson : TokenKind → Json
  | text => .string "Text"
  | quoted => .string "QuotedString"
  | number => .string "Number"
  | range => .string "Range"
  | field f => .object [("Prefix", .string f.name)]
  | unknownField => .string "UnknownPrefix"
  | and => .string "And"
  | or => .string "Or"
  | not => .string "Not"
  | openParen => .string "LParen"
  | closeParen => .string "RParen"
  | less => .string "Lt"
  | greater => .string "Gt"
  | atMost => .string "Lte"
  | atLeast => .string "Gte"
  | error => .string "Error"
  | eof => .string "Eof"

/-- The JSON form of a token. -/
def Token.toJson (t : Token) : Json :=
  .object [("kind", t.kind.toJson), ("value", .string t.value), ("position", .natural t.position)]

/-- The JSON form of an error. -/
def SyntaxError.toJson (e : SyntaxError) : Json :=
  .object ([("message", .string e.message), ("position", .natural e.position)] ++
    (e.token.map fun t => ("token", t.toJson)).toList)

/-- The name of a comparison in JSON. -/
def Comparison.jsonName : Comparison → String
  | less => "Lt"
  | greater => "Gt"
  | atMost => "Lte"
  | atLeast => "Gte"
  | equal => "Eq"

/-- The JSON form of a scope. -/
def Scope.toJson : Scope → Json
  | usual => .string "Default"
  | field f => .object [("Field", .string f.name)]

/-- The JSON form of a query. -/
def Query.toJson : Query → Json
  | and l r => .object [("And", .object [("left", l.toJson), ("right", r.toJson)])]
  | or l r => .object [("Or", .object [("left", l.toJson), ("right", r.toJson)])]
  | not inner => .object [("Not", inner.toJson)]
  | group inner => .object [("Group", inner.toJson)]
  | compare op f value =>
    .object [("Comparison", .object
      [("op", .string op.jsonName), ("field", .string f.name), ("value", .natural value.toNat)])]
  | range f min max =>
    .object [("Range", .object [("field", .string f.name), ("min", .natural min.toNat), ("max", .natural max.toNat)])]
  | search scope value exact =>
    .object [("FieldSearch", .object [("field", scope.toJson), ("value", .string value), ("exact", .bool exact)])]

end KanjiSearch
