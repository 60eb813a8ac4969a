import ServiceCli.Text.Pieces

/-!
# Paths

A path is a text with slashes between names. `Path.join` puts a path below a directory,
`Path.siblingOf` beside a file, and `Path.extension?` gives the ending that tells what a file
holds.
-/

namespace ServiceCli.Path

open Text

/-- Whether a path starts at the root. -/
def isAbsolute (path : String) : Bool :=
  path.toList.head? == some '/'

/-- The path `path` as seen from the directory `dir`. -/
def join (dir path : String) : String :=
  if isAbsolute path || dir = "" then path
  else if dir.toList.getLast? = some '/' then dir ++ path
  else dir ++ "/" ++ path

/-- Whether a name on a path means the directory itself. -/
def isHere (name : String) : Bool :=
  name = "" || name = "."

/-- The names on the way to the directory of the file at a path. Slashes at the end of the way and
names there that mean the directory itself are dropped, but for the start of the path. -/
def directoryNames (file : String) : List String :=
  match (pieces '/' file).dropLast with
  | [] => []
  | first :: names => first :: (names.reverse.dropWhile isHere).reverse

/-- The path `path` as seen from the directory that holds the file at `file`. -/
def siblingOf (file path : String) : String :=
  if isAbsolute path then path else String.intercalate "/" (directoryNames file ++ [path])

/-- The last name on a path. Slashes at its end and names that mean the directory itself are
skipped, and a step to the directory above is no name. -/
def fileName? (path : String) : Option String :=
  match (pieces '/' path).reverse.dropWhile isHere with
  | [] => none
  | name :: _ => if name = ".." then none else some name

/-- What follows the last dot in the last name on a path. A name that has its only dot in front
has no extension. -/
def extension? (path : String) : Option String :=
  (fileName? path).bind fun name =>
    match cutLast '.' name with
    | some (stem, ending) => if stem = "" then none else some ending
    | none => none

end ServiceCli.Path
