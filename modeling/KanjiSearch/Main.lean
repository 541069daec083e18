import KanjiSearch.Command.Run

/-!
# The program

The outer layer: it looks at the files that a command may read, runs the command on what it saw, prints the report and
writes the file that the command asks for. Log messages are not written.
-/

namespace KanjiSearch.Program

/-- The settings files that may apply, whether they are there or not. -/
def settingsPlaces (env : Environment) : List Path :=
  (env.directory :: env.directory.parents).map Settings.fileIn ++ (Settings.globalFile? env.home).toList

/-- The record files that a command may read. -/
def recordPlaces (env : Environment) (c : Command) : List Path :=
  match Settings.load env env.directory, c with
  | .ok s, .search options => Command.searchedFiles env s options
  | .ok s, .showStatus => s.files
  | _, _ => []

/-- The text of the path to a place. -/
def placeText (place : Place) : String :=
  String.ofList ('/' :: List.intercalate ['/'] place.reverse)

/-- What is seen at a place. -/
def look (place : Place) : IO (Option Entry) := do
  let text := placeText place
  if ← ((← IO.currentDir) / text).isDir then
    return some .directory
  try
    return some (.file (← IO.FS.readBinFile text))
  catch _ =>
    return none

/-- The disk with what is seen along the pieces of a path from a place. -/
def lookAlong (d : Disk) (place : Place) : List (List Char) → IO Disk
  | [] => return d
  | piece :: pieces =>
    match Path.step? piece with
    | some (.name name) => do
      let place := name :: place
      let entry ← look place
      let d := d.put place entry
      if entry.any (·.isDirectory) then lookAlong d place pieces else return d
    | some .up => lookAlong d place.tail pieces
    | _ => lookAlong d place pieces

/-- The environment with what is seen at paths. -/
def lookAt (env : Environment) : List Path → IO Environment
  | [] => return env
  | p :: ps => do
    let d ← lookAlong env.disk [] (env.directory.join p).pieces
    lookAt { env with disk := d } ps

/-- Prints a report. -/
def tell (r : Report) : IO UInt32 := do
  IO.print r.output
  IO.eprint r.errors
  return UInt32.ofNat r.status

/-- Writes a new settings file and reports on it. -/
def writeFile (env : Environment) (f : Command.NewFile) : IO UInt32 := do
  match env.write f.path f.text with
  | .error unwritten => tell (Command.reportNotWritten f unwritten.cause.message)
  | .ok _ =>
    try
      IO.FS.writeFile f.path.toString f.text
      tell (Command.reportWritten f)
    catch e =>
      tell (Command.reportNotWritten f (toString e))

/-- Runs a command. -/
def perform (env : Environment) (c : Command) : IO UInt32 := do
  let env ← lookAt env (settingsPlaces env)
  match c with
  | .start atHome overwrite =>
    match Command.planStart env atHome overwrite with
    | .ok f => writeFile env f
    | .error report => tell report
  | c =>
    let env ← lookAt env (recordPlaces env c)
    tell (c.run env).report

/-- The surroundings of the program, with nothing of the disk seen yet. -/
def surroundings : IO Surroundings := do
  let home := (← IO.getEnv "HOME").filter (!·.isEmpty)
  try
    let directory ← IO.currentDir
    return ⟨Disk.empty, .ok (.ofString directory.toString), home.map Path.ofString⟩
  catch e =>
    return ⟨Disk.empty, .error (.other (toString e)), home.map Path.ofString⟩

end KanjiSearch.Program

open KanjiSearch in
/-- The program. -/
def main (args : List String) : IO UInt32 := do
  let around ← Program.surroundings
  match Arguments.read args, around.environment with
  | .command c, .ok env => Program.perform env c
  | _, _ => Program.tell (Command.runArguments around args).report
