import ServiceCli.Disk.Basic

/-!
# Writing to a disk

`Disk.write` writes a file after making the directories on the way to it. Directories are made
from the outside in, and those that are already there are left as they are. A file on the way
stops it, and so does a directory in place of the file, or a path that cannot be opened.
-/

namespace ServiceCli.Disk

open Text

/-- The disk with `n` at a location. -/
def put (d : Disk) (l : Location) (n : Node) : Disk :=
  { d with entries := d.entries.filter (·.1 != l) ++ [(l, n)] }

/-- Makes the directories on a path of names that starts at a location, and gives the location
that the path leads to. -/
def makeDirectories (d : Disk) (l : Location) : List String → Except Fault (Disk × Location)
  | [] =>
    match d.node? l with
    | some (.file _) => .error .alreadyExists
    | _ => .ok (d, l)
  | name :: names =>
    match d.follow l name with
    | .ok inner => d.makeDirectories inner names
    | .error .notFound =>
      (d.put (l ++ [name]) .directory).makeDirectories (l ++ [name]) names
    | .error f => .error f

/-- The names on a path, without those that mean the directory itself. -/
def names (path : String) : List String :=
  (pieces '/' path).filter fun s => s != "" && s != "."

/-- The path of the directory that holds what a path stands for. -/
def outerPath (path : String) : String :=
  ((cutLast '/' path).map Prod.fst).getD ""

/-- Writes the file that the last name on a path stands for. -/
def write (d : Disk) (path : String) (bytes : List UInt8) : Except Fault Disk := do
  match (names path).reverse with
  | [] => throw .isADirectory
  | last :: outer =>
    checkPath (outerPath path)
    let (made, dir) ← d.makeDirectories (d.start path) outer.reverse
    checkPath path
    match made.follow dir last with
    | .ok l =>
      match made.node? l with
      | some .directory => throw .isADirectory
      | _ => return made.put l (.file bytes)
    | .error .notFound => return made.put (dir ++ [last]) (.file bytes)
    | .error f => throw f

end ServiceCli.Disk
