import KanjiSearch.Disk.Environment
import KanjiSearch.Json.Reader
import KanjiSearch.Record.Json

/-!
# Record files

A record file holds a JSON array of records.
-/

namespace KanjiSearch

/-- Why a record file cannot be used. -/
inductive RecordFileError where
  | unreadable (path : Path) (cause : Disk.Failure)
  /-- the file is no JSON array of records -/
  | malformed (path : Path)
  deriving DecidableEq

/-- The message of an error. -/
def RecordFileError.message : RecordFileError → String
  | unreadable path cause => "failed to read data file " ++ path.toString ++ ": " ++ cause.message
  | malformed path => "failed to parse data file " ++ path.toString ++ ": not a list of records"

namespace Record

/-- The records in the text of a record file. -/
def listOfText? (text : List Char) : Option (List Record) :=
  (Json.read? text).bind listOfJson?

/-- The records of a file. -/
def load (env : Environment) (p : Path) : Except RecordFileError (List Record) :=
  match env.read p with
  | .error cause => .error (.unreadable p cause)
  | .ok text =>
    match listOfText? text.toList with
    | some records => .ok records
    | none => .error (.malformed p)

/-- The records of several files in order. -/
def loadAll (env : Environment) (paths : List Path) : Except RecordFileError (List Record) :=
  match paths.mapM (load env) with
  | .ok lists => .ok lists.flatten
  | .error e => .error e

end Record

end KanjiSearch
