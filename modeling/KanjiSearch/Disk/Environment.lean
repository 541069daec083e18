import KanjiSearch.Disk.Basic

/-!
# Environments

What a command finds around it: a disk, the directory in which it runs and the home directory of its user. The program
asks for the directory first, which may fail (`Surroundings`); a command runs in a directory that is known.

What is printed is always taken: the program does not find its output closed.
-/

namespace KanjiSearch

/-- The surroundings of a command. -/
structure Environment where
  disk : Disk
  /-- the directory in which the command runs, as an absolute path -/
  directory : Path
  /-- the home directory, if it is known -/
  home : Option Path

namespace Environment

/-- Whether there is anything at a path. -/
def hasEntry (env : Environment) (p : Path) : Bool :=
  env.disk.hasEntry (env.directory.join p)

/-- Whether there is a file at a path. -/
def isFile (env : Environment) (p : Path) : Bool :=
  env.disk.isFile (env.directory.join p)

/-- The text of the file at a path. -/
def read (env : Environment) (p : Path) : Except Disk.Failure String :=
  env.disk.read (env.directory.join p)

/-- The disk with a text in the file at a path. -/
def write (env : Environment) (p : Path) (text : String) : Except Disk.Unwritten Disk :=
  env.disk.write (env.directory.join p) text

end Environment

/-- The surroundings of the program. -/
structure Surroundings where
  disk : Disk
  /-- the directory in which the program runs, as an absolute path, or why it cannot be told -/
  directory : Except Disk.Failure Path
  /-- the home directory, if it is known -/
  home : Option Path

/-- The surroundings of a command, once its directory is known. -/
def Surroundings.environment (s : Surroundings) : Except Disk.Failure Environment :=
  s.directory.map fun directory => ⟨s.disk, directory, s.home⟩

end KanjiSearch
