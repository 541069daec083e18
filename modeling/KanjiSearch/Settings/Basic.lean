import KanjiSearch.Disk.Basic
import KanjiSearch.Query.Run

/-!
# Settings

What a single settings file says (`FileSettings`), and the settings that are in force when all files that apply have
been read (`Settings`).
-/

namespace KanjiSearch

/-- The section of a settings file about searches. -/
structure SearchSection where
  limit : Option UInt64
  deriving DecidableEq

/-- The section of a settings file about record files. -/
structure DataSection where
  files : Option (List String)
  deriving DecidableEq

/-- What a settings file says. Everything may be left out. -/
structure FileSettings where
  /-- whether files of directories further up are ignored -/
  root : Option Bool
  search : Option SearchSection
  data : Option DataSection
  deriving DecidableEq

namespace FileSettings

/-- The limit that a settings file sets. -/
def limit? (s : FileSettings) : Option UInt64 :=
  s.search.bind (·.limit)

/-- The record files that a settings file sets. -/
def files? (s : FileSettings) : Option (List String) :=
  s.data.bind (·.files)

end FileSettings

/-- A settings file with its contents. -/
structure SettingsFile where
  path : Path
  contents : FileSettings
  deriving DecidableEq

/-- The directory that holds a settings file. -/
def SettingsFile.directory (f : SettingsFile) : Path :=
  f.path.parent?.getD (.ofString ".")

/-- The settings in force. -/
structure Settings where
  /-- the number of records that a search shows -/
  limit : UInt64 := UInt64.ofNat resultLimit
  /-- the record files -/
  files : List Path := []
  /-- the settings file that names the record files -/
  source : Option Path := none
  /-- the directory of the nearest settings file -/
  directory : Option Path := none
  deriving DecidableEq

/-- The number of records that a search shows, which is never more than a search returns. -/
def Settings.effectiveLimit (s : Settings) : Nat :=
  min s.limit.toNat resultLimit

/-- Why there are no settings. -/
inductive SettingsError where
  | unreadable (path : Path) (cause : Disk.Failure)
  /-- the file is no TOML document, or one of its settings has a value that does not suit it -/
  | malformed (path : Path)
  /-- a path starts with a tilde, and the home directory is not known -/
  | noHome
  deriving DecidableEq

/-- The message of an error. -/
def SettingsError.message : SettingsError → String
  | unreadable path cause => "failed to read config file " ++ path.toString ++ ": " ++ cause.message
  | malformed path => "failed to parse config file " ++ path.toString ++ ": not a valid settings file"
  | noHome => "could not determine home directory"

end KanjiSearch
