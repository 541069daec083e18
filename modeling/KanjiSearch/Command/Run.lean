import KanjiSearch.Command.Arguments
import KanjiSearch.Command.Search
import KanjiSearch.Command.Start
import KanjiSearch.Command.Status

/-!
# Running commands

The whole program as a function: from its arguments and its surroundings to a report and the disk it leaves behind. The
arguments are read first, then the current directory is asked for, and then the command runs.
-/

namespace KanjiSearch.Command

/-- What the program does: what it tells its user, and the disk it leaves behind. -/
structure Outcome where
  report : Report
  disk : Disk

/-- The text on how to use the program. -/
def usage : String :=
  Report.lines ["Usage: kanji [-v] COMMAND", "",
    "Commands:",
    "  search QUERY [-d FILE]... [-n LIMIT] [--json] [--explain]",
    "  check QUERY [--json]",
    "  suggest QUERY [-c CURSOR]",
    "  inspect tokens QUERY [--json]",
    "  inspect ast QUERY [--json]",
    "  init [--global] [--force]",
    "  config",
    "  status"]

/-- The report of a command that needs the settings in force. -/
def withSettings (env : Environment) (report : Settings → Report) : Report :=
  match Settings.load env env.directory with
  | .ok s => report s
  | .error e => .failure (Report.lines ["error: failed to load configuration: " ++ e.message])

/-- What a command does in a directory. -/
def run (env : Environment) : Command → Outcome
  | search options => ⟨withSettings env (reportSearch env · options), env.disk⟩
  | check query json => ⟨reportCheck query json, env.disk⟩
  | complete query cursor => ⟨reportCompletions query cursor, env.disk⟩
  | showTokens query json => ⟨reportTokens query json, env.disk⟩
  | showTree query json => ⟨reportTree query json, env.disk⟩
  | start atHome overwrite =>
    let (report, disk) := runStart env atHome overwrite
    ⟨report, disk⟩
  | showSettings => ⟨withSettings env reportSettings, env.disk⟩
  | showStatus => ⟨withSettings env (reportStatus env), env.disk⟩

/-- The report on a current directory that is not known. -/
def reportNoDirectory (cause : Disk.Failure) : Report :=
  .failure (Report.lines ["error: could not determine current directory: " ++ cause.message])

/-- What a command does once the current directory has been asked for. -/
def perform (s : Surroundings) (c : Command) : Outcome :=
  match s.environment with
  | .ok env => c.run env
  | .error cause => ⟨reportNoDirectory cause, s.disk⟩

/-- What the program does when it is called with arguments. -/
def runArguments (s : Surroundings) (args : List String) : Outcome :=
  match Arguments.read args with
  | .command c => c.perform s
  | .help => ⟨.success usage, s.disk⟩
  | .misuse => ⟨⟨2, "", usage⟩, s.disk⟩

end KanjiSearch.Command
