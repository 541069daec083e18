import KanjiSearch.Path.Basic

/-!
# Commands

What the program can be asked to do.
-/

namespace KanjiSearch

/-- A search in record files. -/
structure SearchOptions where
  query : String
  /-- files to search in place of those in the settings -/
  files : List Path := []
  /-- the number of records to show in place of the one in the settings -/
  limit : Option UInt64 := none
  json : Bool := false
  /-- whether the query is explained instead of run -/
  explain : Bool := false
  deriving DecidableEq

/-- A task for the program. -/
inductive Command where
  | search (options : SearchOptions)
  /-- look for faults in a query -/
  | check (query : String) (json : Bool)
  /-- complete the word before the cursor, which is at the end if it is not given -/
  | complete (query : String) (cursor : Option UInt64)
  | showTokens (query : String) (json : Bool)
  | showTree (query : String) (json : Bool)
  /-- write a settings file for the home directory or for the current one -/
  | start (atHome overwrite : Bool)
  | showSettings
  | showStatus
  deriving DecidableEq

/-- The least importance of log messages that are shown, for the number of times that more were asked for. -/
def logFilter (verbosity : Nat) : String :=
  match verbosity with
  | 0 => "warn"
  | 1 => "debug"
  | _ => "trace"

end KanjiSearch
