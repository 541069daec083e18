import KanjiSearch.Disk.Environment
import KanjiSearch.Settings.Basic

/-!
# Warnings about settings

What is probably not meant in settings that are otherwise right.
-/

namespace KanjiSearch

/-- Something that is probably not meant. -/
inductive SettingsWarning where
  | noFiles
  | missingFile (path : Path)
  | limitTooGreat (limit : UInt64)
  | limitZero
  deriving DecidableEq

namespace SettingsWarning

/-- The message of a warning. -/
def message : SettingsWarning → String
  | noFiles => "no data files are configured"
  | missingFile path => "data file does not exist: " ++ path.toString
  | limitTooGreat limit =>
    "search limit " ++ Text.decimalString limit.toNat ++ " is above the cap of " ++ Text.decimalString resultLimit ++
      "; " ++ Text.decimalString resultLimit ++ " is used"
  | limitZero => "search limit is 0; searches will show no results"

/-- What to do about a warning. -/
def hint? : SettingsWarning → Option String
  | noFiles => some ("Hint: add files = [\"kanji.json\"] under [data] in .kanji.toml")
  | limitTooGreat _ => some ("Hint: set [search] limit to " ++ Text.decimalString resultLimit ++ " or less")
  | _ => none

end SettingsWarning

namespace Settings

/-- The warning about the limit. -/
def limitWarning? (s : Settings) : Option SettingsWarning :=
  if s.limit = 0 then some .limitZero
  else if resultLimit < s.limit.toNat then some (.limitTooGreat s.limit)
  else none

/-- The warnings about settings. -/
def warnings (env : Environment) (s : Settings) : List SettingsWarning :=
  s.limitWarning?.toList ++ (if s.files.isEmpty then [.noFiles] else []) ++
    (s.files.filter fun p => !env.isFile p).map .missingFile

end Settings

end KanjiSearch
