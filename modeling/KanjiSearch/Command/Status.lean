import KanjiSearch.Command.Inspection
import KanjiSearch.Record.File
import KanjiSearch.Settings.Discovery
import KanjiSearch.Settings.Warning

/-!
# Showing settings

The commands that show the settings in force, the files they come from and the record files they name.
-/

namespace KanjiSearch

open Terminal (Style)

namespace Command

/-- The report of the settings in force. -/
def reportSettings (s : Settings) : Report :=
  .success (String.ofList s.toToml)

/-- A path as it is shown to a user in the current directory. -/
def shownPath (env : Environment) (p : Path) : String :=
  String.ofList (p.shown env.home (some env.directory))

/-- The line of a settings file. -/
def settingsFileLine (env : Environment) (p : Path) : String :=
  let scope := if Settings.isGlobal env.home p then "(global)" else "(local)"
  indented (shownPath env p ++ " " ++ Style.dim.apply scope)

/-- What is told about a record file: the number of its records, or what is wrong with it. -/
def recordFileNote (env : Environment) (p : Path) : String :=
  if !env.isFile p then Style.warning.apply "[missing]"
  else
    match Record.load env p with
    | .ok records => Style.dim.apply ("(" ++ Text.decimalString records.length ++ " records)")
    | .error e => Style.warning.apply ("[" ++ e.message ++ "]")

/-- The line of a record file. -/
def recordFileLine (env : Environment) (p : Path) : String :=
  indented (shownPath env p ++ " " ++ recordFileNote env p)

/-- The lines about record files. -/
def recordFileLines (env : Environment) (files : List Path) : List String :=
  if files.isEmpty then [indented (Style.dim.apply "(none configured)")] else files.map (recordFileLine env)

/-- The lines about warnings and what to do about them. -/
def warningLines (warnings : List SettingsWarning) : List String :=
  if warnings.isEmpty then ["No issues found."]
  else
    [Style.subheader.apply ("Warnings (" ++ Text.decimalString warnings.length ++ "):")] ++
      warnings.map (fun w => indented (Style.warning.apply w.message)) ++ [""] ++
      (warnings.filterMap (·.hint?)).map Style.dim.apply

/-- The report of settings, the files they come from and the files they name. -/
def reportStatus (env : Environment) (s : Settings) : Report :=
  match Settings.discover env env.directory with
  | [] =>
    .success (Report.lines [Style.dim.apply "No configuration files found.", "",
      "Run " ++ Style.subheader.apply "kanji init" ++ " to create a configuration file."])
  | files =>
    .success (Report.lines ([Style.subheader.apply "Config files:"] ++ files.map (settingsFileLine env) ++
      ["", Style.subheader.apply "Data files:"] ++ recordFileLines env s.files ++
      ["", Style.subheader.apply "Search:", indented ("limit = " ++ Text.decimalString s.effectiveLimit), ""] ++
      warningLines (s.warnings env)))

end Command

end KanjiSearch
