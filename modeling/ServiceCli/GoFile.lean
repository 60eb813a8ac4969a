import ServiceCli.Command.Unit

/-!
# A generated file before it is written

`GoFile` holds what a generated file consists of: its package, its imports and its parts in
order. An import is written with the name that it has in the file.
-/

namespace ServiceCli

open Command

/-- A package that a Go file imports, under a name. -/
structure GoImport where
  /-- The name of the package in the file. -/
  name : String
  path : String
  deriving DecidableEq, Repr, Inhabited

namespace GoImport

/-- Whether the path is one of the standard library: its first part has no dot. -/
def isStandard (i : GoImport) : Bool :=
  !(i.path.toList.takeWhile (· != '/')).contains '.'

/-- The order of imports: by name, and by path under one name. -/
def lt (a b : GoImport) : Bool :=
  a.name < b.name || (a.name == b.name && a.path < b.path)

/-- Puts an import into an ordered list, unless it is already in it. -/
def insert (i : GoImport) : List GoImport → List GoImport
  | [] => [i]
  | j :: js => if i = j then j :: js else if i.lt j then i :: j :: js else j :: insert i js

/-- The imports of a list in order and each once. -/
def ordered (is : List GoImport) : List GoImport :=
  is.foldl (fun js i => insert i js) []

end GoImport

/-- A generated file. -/
structure GoFile where
  /-- The `.proto` file that it is generated from. -/
  source : String
  /-- The path under which it is written. -/
  outputName : String
  package : String
  imports : List GoImport
  units : List CommandUnit
  deriving Repr, Inhabited

/-- The subcommands of a file, in order. -/
def GoFile.subcommands (f : GoFile) : List Subcommand :=
  f.units.filterMap CommandUnit.subcommand?

end ServiceCli
