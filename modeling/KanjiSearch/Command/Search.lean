import KanjiSearch.Command.Basic
import KanjiSearch.Command.Inspection
import KanjiSearch.Record.File
import KanjiSearch.Settings.Basic

/-!
# Searching

The command that runs a query on record files, and the forms in which it shows what it found.
-/

namespace KanjiSearch

open Terminal (Style)

namespace Command

/-- The headings of the columns of a result. -/
def resultHeader : List String :=
  ["Kanji", "Hán Việt", "Meaning", "Vietnamese", "On", "Kun", "JLPT", "Freq"]

/-- The row of a record in a result. -/
def resultRow (r : Record) : List String :=
  [r.kanji, r.hanViet, r.meaning, r.vietnameseMeaning, ", ".intercalate r.onyomi, ", ".intercalate r.kunyomi,
    r.jlptLevel, (r.frequency.map fun n => Text.decimalString n.toNat).getD ""]

/-- The line below a result. -/
def resultCount (count : Nat) : String :=
  Text.decimalString count ++ (if count = 1 then " result" else " results")

/-- A result as a table. -/
def resultOutput (records : List Record) : String :=
  if records.isEmpty then Report.lines [Style.dim.apply "No results found."]
  else
    Report.lines [Terminal.table resultHeader (records.map resultRow), Style.dim.apply (resultCount records.length)]

/-- A result as JSON. -/
def resultJson (query : String) (records : List Record) : Json :=
  .object [("query", .string query), ("total_matches", .natural records.length),
    ("results", .array (records.map (·.toJson)))]

/-- The files that a search looks into. -/
def searchedFiles (env : Environment) (s : Settings) (o : SearchOptions) : List Path :=
  if o.files.isEmpty then s.files else o.files.map env.directory.join

/-- The number of records that a search may show. -/
def searchLimit (s : Settings) (o : SearchOptions) : Nat :=
  (o.limit.getD s.limit).toNat

/-- The report of a search in the records of its files. -/
def reportResult (s : Settings) (o : SearchOptions) (records : List Record) : Report :=
  match KanjiSearch.search o.query records (searchLimit s o) with
  | ⟨found, []⟩ =>
    .success (if o.json then Report.jsonLine (resultJson o.query found) else resultOutput found)
  | ⟨_, errors⟩ => reportFailure o.query errors

/-- The report of a search. -/
def reportSearch (env : Environment) (s : Settings) (o : SearchOptions) : Report :=
  if o.explain then reportExplanation o.query
  else
    match searchedFiles env s o with
    | [] =>
      .failure (Report.lines ["error: no data files configured",
        "Pass --data FILE, or run 'kanji init' and list files under [data]."])
    | files =>
      match Record.loadAll env files with
      | .error e => .failure (Report.lines ["error: " ++ e.message])
      | .ok records => reportResult s o records

end Command

end KanjiSearch
