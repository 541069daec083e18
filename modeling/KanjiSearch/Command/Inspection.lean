import KanjiSearch.Command.Report
import KanjiSearch.Query.Completion
import KanjiSearch.Query.Diagnostic
import KanjiSearch.Query.Json
import KanjiSearch.Query.Outline
import KanjiSearch.Query.Run
import KanjiSearch.Query.Written
import KanjiSearch.Terminal.Marker
import KanjiSearch.Terminal.Table

/-!
# Looking into queries

The commands that work on a query alone: its faults, its tokens, its tree and its completions.
-/

namespace KanjiSearch

open Terminal (Style)

namespace Command

/-- The line for a query that is empty. -/
def emptyQueryLine : String :=
  Report.lines [Style.dim.apply "(empty query)"]

/-! ## Faults -/

/-- The lines about an error in a query. -/
def errorLines (query : String) (e : SyntaxError) : List String :=
  [Style.error.apply ("error: " ++ e.message), "  " ++ Terminal.markChar query e.position,
    "  " ++ Terminal.caretLine query e.position] ++ (e.hint?.map fun hint => Style.dim.apply ("hint: " ++ hint)).toList

/-- The output about the errors in a query, with an empty line between errors. -/
def errorOutput (query : String) (errors : List SyntaxError) : String :=
  "\n".intercalate (errors.map fun e => Report.lines (errorLines query e))

/-- The result of a check as JSON. -/
def checkJson (query : String) (check : SyntaxCheck) : Json :=
  .object [("query", .string query), ("valid", .bool check.valid), ("errors", .array (check.errors.map (·.toJson)))]

/-- The output of a check. -/
def checkOutput (query : String) (check : SyntaxCheck) : String :=
  if check.valid then Report.lines [Style.success.apply "valid"]
  else if check.errors.isEmpty then Report.lines [Style.dim.apply "empty query"]
  else errorOutput query check.errors

/-- The report of a check, which fails if the query is not valid. -/
def reportCheck (query : String) (json : Bool) : Report :=
  let check := checkSyntax query
  ⟨if check.valid then 0 else 1, if json then Report.jsonLine (checkJson query check) else checkOutput query check, ""⟩

/-- The report of a query that failed. -/
def reportFailure (query : String) (errors : List SyntaxError) : Report :=
  .failure (Report.lines [QueryFailure.reportAll ⟨query, errors⟩])

/-! ## Completions -/

/-- The report of the completions at a cursor, or at the end of the query. -/
def reportCompletions (query : String) (cursor : Option UInt64) : Report :=
  .success (Report.lines (completions query ((cursor.map (·.toNat)).getD query.length)))

/-! ## Tokens and trees -/

/-- A list of tokens as a table. -/
def tokenTable (ts : List Token) : String :=
  Terminal.table ["Pos", "Kind", "Value"] (ts.map fun t => [Text.decimalString t.position, t.kind.label, t.value])

/-- The report of the tokens of a query. -/
def reportTokens (query : String) (json : Bool) : Report :=
  let ts := tokenize query
  .success (if json then Report.jsonLine (.array (ts.map (·.toJson))) else Report.lines [tokenTable ts])

/-- The report of the tree of a query. -/
def reportTree (query : String) (json : Bool) : Report :=
  match parseQuery query with
  | ⟨q, []⟩ =>
    .success (
      if json then Report.jsonLine ((q.map (·.toJson)).getD .null)
      else
        match q with
        | some q => String.ofList q.outline
        | none => emptyQueryLine)
  | ⟨_, errors⟩ => reportFailure query errors

/-! ## Explanations -/

/-- A line below a heading. -/
def indented (text : String) : String :=
  "   " ++ text

/-- The explanation of a tree: its outline and the query in its plainest form. -/
def treeExplanation (q : Query) : String :=
  Report.lines ([Style.subheader.apply "Parsed AST:"] ++
    (Text.lines q.outline).map (fun line => indented (String.ofList line)) ++
    ["", Style.subheader.apply "Normalized:", indented (String.ofList q.written)])

/-- The report that explains a query. -/
def reportExplanation (query : String) : Report :=
  let start := Report.lines [Style.subheader.apply "Query:", indented query, "", Style.subheader.apply "Tokens:",
    tokenTable (tokenize query), ""]
  .after start (
    match parseQuery query with
    | ⟨some q, []⟩ => .success (treeExplanation q)
    | ⟨none, []⟩ => .success emptyQueryLine
    | ⟨_, errors⟩ => reportFailure query errors)

end Command

end KanjiSearch
