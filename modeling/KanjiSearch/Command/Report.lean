import KanjiSearch.Json.Writer

/-!
# Reports

What a command tells its user: text on the two output streams and a status, which is zero for success.
-/

namespace KanjiSearch

/-- What a command tells its user. -/
structure Report where
  status : Nat
  output : String
  errors : String
  deriving DecidableEq

namespace Report

/-- A text of several lines. -/
def lines (texts : List String) : String :=
  String.join (texts.map (· ++ "\n"))

/-- The report of a success. -/
def success (output : String) : Report :=
  ⟨0, output, ""⟩

/-- The report of a failure. -/
def failure (errors : String) : Report :=
  ⟨1, "", errors⟩

/-- A report with more output in front. -/
def after (output : String) (r : Report) : Report :=
  { r with output := output ++ r.output }

/-- The output of a JSON value. -/
def jsonLine (j : Json) : String :=
  lines [String.ofList j.pretty]

end Report

end KanjiSearch
