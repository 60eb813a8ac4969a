import ServiceCli.Path

/-!
# A disk

A `Disk` is a tree of directories and files without links. A place on it is the list of names
that leads there from the root (`Location`). `Disk.locate` follows a path name by name: every name
but the last has to be that of a directory, and so has the last one if a slash follows it. Names
are 255 bytes long at most, and a path that is opened 4095 bytes (`Disk.reach`).
-/

namespace ServiceCli

open Text

/-- What stands at a location. -/
inductive Node where
  | file (bytes : List UInt8)
  | directory
  deriving DecidableEq, Repr

/-- The names that lead from the root to a place. -/
abbrev Location := List String

namespace Location

/-- The path of a location from the root. -/
def path (l : Location) : String :=
  if l.isEmpty then "/" else String.join (l.map ("/" ++ ·))

end Location

/-- Why something on a disk cannot be read or written. -/
inductive Fault where
  | notFound | notADirectory | isADirectory | alreadyExists
  /-- A name or a path is longer than the disk allows. -/
  | nameTooLong
  /-- A zero stands in a path. -/
  | zeroInPath
  /-- The bytes of a file are no text. -/
  | notText
  deriving DecidableEq, Repr

/-- The text of a fault. -/
def Fault.message : Fault → String
  | notFound => "No such file or directory (os error 2)"
  | notADirectory => "Not a directory (os error 20)"
  | isADirectory => "Is a directory (os error 21)"
  | alreadyExists => "File exists (os error 17)"
  | nameTooLong => "File name too long (os error 36)"
  | zeroInPath => "file name contained an unexpected NUL byte"
  | notText => "stream did not contain valid UTF-8"

/-- A tree of directories and files. -/
structure Disk where
  /-- What stands where. The directories around an entry need no entry of their own. -/
  entries : List (Location × Node) := []
  /-- The directory from which paths start that do not start at the root. -/
  current : Location := []
  deriving DecidableEq, Repr

namespace Disk

/-- What stands at a location. -/
def node? (d : Disk) (l : Location) : Option Node :=
  match d.entries.lookup l with
  | some n => some n
  | none =>
    if l.isPrefixOf d.current || d.entries.any (fun e => l.isPrefixOf e.1) then some .directory
    else none

/-- The number of bytes in the longest name. -/
def maxNameLength : Nat := 255

/-- The number of bytes in the longest path that can be opened. -/
def maxPathLength : Nat := 4095

/-- Goes one name on from a location. -/
def follow (d : Disk) (l : Location) (name : String) : Except Fault Location :=
  match d.node? l with
  | none => .error .notFound
  | some (.file _) => .error .notADirectory
  | some .directory =>
    if name = "" ∨ name = "." then .ok l
    else if name = ".." then .ok l.dropLast
    else if maxNameLength < name.utf8ByteSize then .error .nameTooLong
    else if (d.node? (l ++ [name])).isSome then .ok (l ++ [name])
    else .error .notFound

/-- The location from which a path starts. -/
def start (d : Disk) (path : String) : Location :=
  if Path.isAbsolute path then [] else d.current

/-- The location that a path leads to. -/
def locate (d : Disk) (path : String) : Except Fault Location :=
  if path.toList.contains '\x00' then .error .zeroInPath
  else if path = "" then .error .notFound
  else (pieces '/' path).foldlM d.follow (d.start path)

/-- Refuses a path that holds a zero or is too long to be opened. -/
def checkPath (path : String) : Except Fault Unit :=
  if path.toList.contains '\x00' then .error .zeroInPath
  else if maxPathLength < path.utf8ByteSize then .error .nameTooLong
  else .ok ()

/-- The location that a path leads to, if the path can be opened. -/
def reach (d : Disk) (path : String) : Except Fault Location := do
  checkPath path
  d.locate path

/-- Whether a path leads to anything. -/
def holds (d : Disk) (path : String) : Bool :=
  (d.reach path).toOption.isSome

/-- The bytes of the file that a path leads to. -/
def read (d : Disk) (path : String) : Except Fault (List UInt8) := do
  match d.node? (← d.reach path) with
  | some (.file bytes) => return bytes
  | some .directory => throw .isADirectory
  | none => throw .notFound

/-- The text of the file that a path leads to. -/
def readText (d : Disk) (path : String) : Except Fault String := do
  match String.fromUTF8? ⟨(← d.read path).toArray⟩ with
  | some s => return s
  | none => throw .notText

end Disk

end ServiceCli
