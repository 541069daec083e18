import KanjiSearch.Command.Report
import KanjiSearch.Settings.Discovery
import KanjiSearch.Settings.Template
import KanjiSearch.Terminal.Style

/-!
# Starting a project

The command that writes a new settings file. Everything in the file is a comment, so no setting changes. A file that
could not be written to its end keeps what was written.
-/

namespace KanjiSearch

open Terminal (Style)

namespace Command

/-- A settings file that is to be written. -/
structure NewFile where
  path : Path
  text : String
  deriving DecidableEq

/-- Whether a directory is the home directory. -/
def isHome (env : Environment) : Bool :=
  match (Settings.globalFile? env.home).bind (·.parent?) with
  | some home => home.same env.directory
  | none => false

/-- The settings file to be written: that of the home directory if it is asked for or if the command runs there. -/
def newFile? (env : Environment) (atHome : Bool) : Option NewFile :=
  if atHome || isHome env then
    (Settings.globalFile? env.home).map fun path => ⟨path, Settings.homeTemplate⟩
  else some ⟨Settings.fileIn env.directory, Settings.projectTemplate⟩

/-- The report on a file that has been written. -/
def reportWritten (f : NewFile) : Report :=
  .success (Report.lines ["Created " ++ f.path.toString, "", Style.subheader.apply "Configuration written:", f.text])

/-- The report on a file that could not be written. -/
def reportNotWritten (f : NewFile) (cause : String) : Report :=
  .failure (Report.lines ["error: failed to write " ++ f.path.toString ++ ": " ++ cause])

/-- The file to be written, or the report that says why there is none. -/
def planStart (env : Environment) (atHome overwrite : Bool) : Except Report NewFile :=
  match newFile? env atHome with
  | none => .error (.failure (Report.lines ["error: could not determine home directory"]))
  | some f =>
    if env.hasEntry f.path && !overwrite then
      .error (.failure (Report.lines
        ["error: configuration file already exists: " ++ f.path.toString, "use --force to overwrite"]))
    else .ok f

/-- The report on a new settings file, and the disk with it. -/
def runStart (env : Environment) (atHome overwrite : Bool) : Report × Disk :=
  match planStart env atHome overwrite with
  | .error report => (report, env.disk)
  | .ok f =>
    match env.write f.path f.text with
    | .ok disk => (reportWritten f, disk)
    | .error unwritten => (reportNotWritten f unwritten.cause.message, unwritten.disk)

end Command

end KanjiSearch
