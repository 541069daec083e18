import KanjiSearch.Query.Matching
import KanjiSearch.Query.Parser

/-!
# Running queries

A query with a fault matches nothing, and neither does an empty one. A search never returns more than `resultLimit`
records.
-/

namespace KanjiSearch

/-- The greatest number of records that a search returns. -/
def resultLimit : Nat := 50

/-- The records that a query matches. -/
def Query.filter (q : Query) (records : List Record) : List Record :=
  records.filter fun r => q.holds r.fields

/-- The records that a search found, and the faults of its query. -/
structure SearchResult where
  records : List Record
  errors : List SyntaxError
  deriving DecidableEq

/-- The first records that the query `text` matches: `limit` of them, but never more than `resultLimit`. -/
def search (text : String) (records : List Record) (limit : Nat) : SearchResult :=
  match parseQuery text with
  | ⟨some q, []⟩ => ⟨(q.filter records).take (min limit resultLimit), []⟩
  | ⟨_, errors⟩ => ⟨[], errors⟩

/-- Whether a query is right, and its faults. -/
structure SyntaxCheck where
  valid : Bool
  errors : List SyntaxError
  deriving DecidableEq

/-- The check of the query `text`: an empty query has no fault, but is not valid. -/
def checkSyntax (text : String) : SyntaxCheck :=
  let p := parseQuery text
  ⟨p.errors.isEmpty && p.query.isSome, p.errors⟩

end KanjiSearch
