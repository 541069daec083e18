import KanjiSearch.Path.Home
import KanjiSearch.Settings.Basic

/-!
# Precedence of settings

Settings files are given with the nearest first. Each setting is taken from the first file that has it; the record files
are taken from one file as a whole and read from its directory.
-/

namespace KanjiSearch.Settings

/-- Settings with the limit of a file in place of their own, if the file sets one. -/
def withLimitOf (s : Settings) (f : SettingsFile) : Settings :=
  match f.contents.limit? with
  | some limit => { s with limit := limit }
  | none => s

/-- The limit of several files: files further away first, so that nearer ones replace it. -/
def limitOf (files : List SettingsFile) : UInt64 :=
  (files.foldr (fun f (s : Settings) => s.withLimitOf f) {}).limit

/-- The first file that names record files, and their names. -/
def naming? (files : List SettingsFile) : Option (SettingsFile × List String) :=
  files.findSome? fun f => f.contents.files?.map fun names => (f, names)

/-- The paths of record files that a settings file names. -/
def resolveAll? (home : Option Path) (f : SettingsFile) (names : List String) : Option (List Path) :=
  names.mapM fun name => Path.resolve? home f.directory name.toList

/-- The settings in force when several files apply. -/
def merge (home : Option Path) (files : List SettingsFile) : Except SettingsError Settings :=
  let base : Settings := { limit := limitOf files, directory := files.head?.map (·.directory) }
  match naming? files with
  | none => .ok base
  | some (f, names) =>
    match resolveAll? home f names with
    | some paths => .ok { base with files := paths, source := some f.path }
    | none => .error .noHome

end KanjiSearch.Settings
