import KanjiSearch.Disk.Environment
import KanjiSearch.Settings.Precedence
import KanjiSearch.Settings.Toml

/-!
# Finding settings files

The settings files for a directory are those in it and in the directories above it, up to the first one that is marked
as the root. If there is no such mark, the file in the home directory applies as well.
-/

namespace KanjiSearch.Settings

/-- The name of settings files. -/
def fileName : String :=
  ".kanji.toml"

/-- The settings file of a directory. -/
def fileIn (dir : Path) : Path :=
  dir.join (.ofString fileName)

/-- The settings file of the home directory. -/
def globalFile? (home : Option Path) : Option Path :=
  home.map fileIn

/-- Whether a path is that of the settings file of the home directory. -/
def isGlobal (home : Option Path) (p : Path) : Bool :=
  (globalFile? home).any p.same

/-- The contents of a settings file. -/
def readFile (env : Environment) (p : Path) : Except SettingsError SettingsFile :=
  match env.read p with
  | .error cause => .error (.unreadable p cause)
  | .ok text =>
    match FileSettings.ofText? text.toList with
    | some contents => .ok ⟨p, contents⟩
    | none => .error (.malformed p)

/-- Whether a settings file is marked as the root. A file that cannot be read is not. -/
def isRoot (env : Environment) (p : Path) : Bool :=
  match readFile env p with
  | .ok f => f.contents.root == some true
  | .error _ => false

/-- The settings files of directories, of which the nearest is first, and whether the last one is marked as the root. -/
def localFiles (env : Environment) : List Path → List Path × Bool
  | [] => ([], false)
  | dir :: dirs =>
    let file := fileIn dir
    if !env.isFile file then localFiles env dirs
    else if isRoot env file then ([file], true)
    else
      let (files, rooted) := localFiles env dirs
      (file :: files, rooted)

/-- The settings files that apply in a directory, the nearest first. -/
def discover (env : Environment) (dir : Path) : List Path :=
  let (files, rooted) := localFiles env (dir :: dir.parents)
  match globalFile? env.home with
  | some file => if !rooted && env.isFile file && !files.any (·.same file) then files ++ [file] else files
  | none => files

/-- The settings in force when the files at the given paths apply, the nearest first. -/
def loadFiles (env : Environment) (paths : List Path) : Except SettingsError Settings :=
  match paths.mapM (readFile env) with
  | .ok files => merge env.home files
  | .error e => .error e

/-- The settings in force in a directory. -/
def load (env : Environment) (dir : Path) : Except SettingsError Settings :=
  loadFiles env (discover env dir)

end KanjiSearch.Settings
