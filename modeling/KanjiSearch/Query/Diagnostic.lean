import KanjiSearch.Query.SyntaxError
import KanjiSearch.Text.Width

/-!
# Diagnostics

Errors of a query in the form in which they are reported: the message, the query, a caret below the place and a hint.
-/

namespace KanjiSearch

/-- A query that failed, with its errors. -/
structure QueryFailure where
  query : String
  errors : List SyntaxError
  deriving DecidableEq

namespace QueryFailure

/-- The message of the first error. -/
def message (f : QueryFailure) : String :=
  (f.errors.head?.map (·.message)).getD ""

/-- The report of one error. The caret stands below the last character of the query at most. -/
def report (f : QueryFailure) (e : SyntaxError) : String :=
  let column := Text.width (f.query.toList.take e.position)
  let hint := match e.hint? with
    | some hint => "\nhint: " ++ hint
    | none => ""
  "query syntax error: " ++ e.message ++ "\n  " ++ f.query ++ "\n  " ++
    String.ofList (List.replicate column ' ') ++ "^" ++ hint

/-- The report of all errors. -/
def reportAll (f : QueryFailure) : String :=
  match f.errors with
  | [] => "query syntax error: empty query"
  | errors => "\n".intercalate (errors.map f.report)

end QueryFailure

end KanjiSearch
