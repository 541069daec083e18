import KanjiSearch.Path.Basic

/-!
# Disks

A disk holds files and directories at places. Paths are walked from directory to directory (`Disk.walk`), so nothing is
found below a file or below a directory that is missing.

A file is emptied before it is written. Writing may be forbidden, or break off when a part of the bytes is written; the
file then keeps this part (`Disk.write`). A command writes one file at most, so a disk has one obstacle to writing.

There are no links: every place has one name. All files can be read, all directories can be walked through, and nobody
else changes the disk while a command runs.
-/

namespace KanjiSearch

/-- A place on a disk: its name, the name of the directory that holds it, and so on up to the root, which is `[]`. -/
abbrev Place := List (List Char)

/-- What stands at a place. -/
inductive Entry where
  | file (bytes : ByteArray)
  | directory

/-- Whether an entry is a directory. -/
def Entry.isDirectory : Entry → Bool
  | directory => true
  | file _ => false

namespace Disk

/-- Why a path cannot be used. -/
inductive Failure where
  | notFound
  | notDirectory
  | isDirectory
  | nameTooLong
  /-- the path has a null character -/
  | nullInName
  /-- the bytes of the file spell no text -/
  | notText
  /-- anything else that the system reports -/
  | other (message : String)
  deriving DecidableEq

/-- The message of a failure. -/
def Failure.message : Failure → String
  | notFound => "No such file or directory (os error 2)"
  | notDirectory => "Not a directory (os error 20)"
  | isDirectory => "Is a directory (os error 21)"
  | nameTooLong => "File name too long (os error 36)"
  | nullInName => "file name contained an unexpected NUL byte"
  | notText => "stream did not contain valid UTF-8"
  | other message => message

/-- What keeps a file from being written. -/
inductive Obstacle where
  /-- no file can be opened to be written -/
  | closed (cause : Failure)
  /-- no more than `room` bytes can be written -/
  | full (room : Nat) (cause : Failure)

end Disk

/-- The contents of a disk, and what keeps files on it from being written. The root is always a directory. -/
structure Disk where
  contents : Place → Option Entry
  obstacle : Option Disk.Obstacle := none

namespace Disk

/-- The disk with nothing on it. -/
def empty : Disk where
  contents _ := none

/-- What stands at a place. -/
def entry? (d : Disk) : Place → Option Entry
  | [] => some .directory
  | name :: place => d.contents (name :: place)

/-- The disk with another entry at a place. -/
def put (d : Disk) (place : Place) (entry : Option Entry) : Disk :=
  { d with contents := fun p => if p = place then entry else d.contents p }

/-- The disk with directories at a place and at all places that hold it. -/
def withDirectories (d : Disk) : Place → Disk
  | [] => d
  | name :: place => (d.withDirectories place).put (name :: place) (some .directory)

/-! ## Walking -/

/-- The greatest number of bytes in a name. -/
def maxName : Nat := 255

/-- The greatest number of bytes in a path. -/
def maxPath : Nat := 4095

/-- The number of bytes of a text. -/
def byteCount (cs : List Char) : Nat :=
  (String.ofList cs).utf8ByteSize

/-- The place to which the pieces of a path lead. All places before the last one must be directories; whether anything
is at the last one is left open. -/
def walk (d : Disk) (place : Place) : List (List Char) → Except Failure Place
  | [] => .ok place
  | piece :: pieces =>
    match d.entry? place with
    | none => .error .notFound
    | some (.file _) => .error .notDirectory
    | some .directory =>
      match Path.step? piece with
      | some (.name name) => if maxName < byteCount name then .error .nameTooLong else d.walk (name :: place) pieces
      | some .up => d.walk place.tail pieces
      | _ => d.walk place pieces

/-- The place to which an absolute path leads. -/
def locate (d : Disk) (p : Path) : Except Failure Place :=
  if p.text.contains '\x00' then .error .nullInName
  else if maxPath < byteCount p.text then .error .nameTooLong
  else d.walk [] p.pieces

/-- What stands where an absolute path leads. -/
def find (d : Disk) (p : Path) : Except Failure Entry :=
  match d.locate p with
  | .error failure => .error failure
  | .ok place =>
    match d.entry? place with
    | some entry => .ok entry
    | none => .error .notFound

/-! ## Files -/

/-- Whether there is anything at a path. -/
def hasEntry (d : Disk) (p : Path) : Bool :=
  match d.find p with
  | .ok _ => true
  | .error _ => false

/-- Whether there is a file at a path. -/
def isFile (d : Disk) (p : Path) : Bool :=
  match d.find p with
  | .ok (.file _) => true
  | _ => false

/-- The text of the file at a path. -/
def read (d : Disk) (p : Path) : Except Failure String :=
  match d.find p with
  | .error failure => .error failure
  | .ok .directory => .error .isDirectory
  | .ok (.file bytes) =>
    match String.fromUTF8? bytes with
    | some text => .ok text
    | none => .error .notText

/-- A write that has failed, and the disk that it leaves behind. -/
structure Unwritten where
  cause : Failure
  disk : Disk

/-- The disk with bytes in the file at a place. The file is emptied first. -/
def fill (d : Disk) (place : Place) (bytes : ByteArray) : Except Unwritten Disk :=
  match d.obstacle with
  | none => .ok (d.put place (some (.file bytes)))
  | some (.closed cause) => .error ⟨cause, d⟩
  | some (.full room cause) =>
    if bytes.size ≤ room then .ok (d.put place (some (.file bytes)))
    else .error ⟨cause, d.put place (some (.file (bytes.extract 0 room)))⟩

/-- The disk with a text in the file at a path, which is made if it is not there. -/
def write (d : Disk) (p : Path) (text : String) : Except Unwritten Disk :=
  match d.locate p with
  | .error failure => .error ⟨failure, d⟩
  | .ok place =>
    match d.entry? place with
    | some .directory => .error ⟨.isDirectory, d⟩
    | _ => d.fill place text.toUTF8

end Disk

end KanjiSearch
