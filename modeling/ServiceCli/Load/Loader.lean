import ServiceCli.Load.Error
import ServiceCli.Load.SchemaFormat

/-!
# Loading schemas

`load` reads the schema at a path with everything that it imports. A `Loader` holds what has been
loaded so far: the places of the schemas, the files that they declare and the names of those to
generate. It keeps what was done before a failure.

A place is noted before the schema there is read, so schemas may import one another in a circle,
and no schema is read twice. Files come after those of the schemas imported before them. A file
may be declared again if it is the same.
-/

namespace ServiceCli.Load

open Proto

/-- Where schemas are found: on a disk, and in the directories in which imports are looked for
after that of the importing schema. -/
structure Shelf where
  disk : Disk := {}
  includes : List String := []
  deriving DecidableEq, Repr

/-- What has been loaded. -/
structure Loader where
  /-- The places of the schemas, the latest first. -/
  loaded : List Location := []
  /-- The files, in the order in which they were declared. -/
  files : List File := []
  /-- The names of the files to generate. -/
  targets : List String := []
  deriving DecidableEq, Repr, Inhabited

/-- A step in loading, which changes the loader even if it fails. -/
abbrev Loading := ExceptT LoadError (StateM Loader)

namespace Shelf

/-- The schema at a path, of a known format. -/
def readAs (s : Shelf) (path : String) : SchemaFormat → Except LoadError Schema
  | .yaml => do
    match schemaOfYaml? (← (s.disk.readText path).mapError (.unreadable path)) with
    | some schema => return schema
    | none => throw (.malformedYaml path)
  | .json => do
    match schemaOfJson? (← (s.disk.readText path).mapError (.unreadable path)) with
    | some schema => return schema
    | none => throw (.malformedJson path)
  | .descriptorSet => do
    match schemaOfDescriptorSet? (← (s.disk.read path).mapError (.unreadable path)) with
    | some schema => return schema
    | none => throw .malformedDescriptors

/-- The schema at a path, and the names of its files that are generated if it is given. -/
def read (s : Shelf) (path : String) : Except LoadError (Schema × List String) :=
  match SchemaFormat.ofPath? path with
  | none => .error (.unsupportedFormat path)
  | some f => (s.readAs path f).map fun schema => (schema, f.targets schema)

/-- The paths that an import in the schema at `base` may mean, the first that exists being the one
meant. -/
def candidates (s : Shelf) (base imported : String) : List String :=
  Path.siblingOf base imported :: s.includes.map (Path.join · imported)

/-- The place of an import. -/
def findImport (s : Shelf) (base imported : String) : Except LoadError Location :=
  match (s.candidates base imported).filterMap fun c => (s.disk.reach c).toOption with
  | [] => .error (.importNotFound imported base)
  | l :: _ => .ok l

/-- How many schemas may be open at once: each of them is a file on the disk, but for the last. -/
def room (s : Shelf) : Nat :=
  s.disk.entries.length + 1

end Shelf

/-- Adds a file, unless it is there already. -/
def addFile (f : File) : Loading Unit := do
  match (← get).files.find? fun g => g.name = f.name with
  | some g => if g = f then pure () else throw (.conflictingFile f.name)
  | none => modify fun l => { l with files := l.files ++ [f] }

/-- Adds the name of a file to generate, unless it is there already. -/
def addTarget (name : String) : Loading Unit :=
  modify fun l => if name ∈ l.targets then l else { l with targets := l.targets ++ [name] }

/-- Loads the schema at a path, while at most `room` schemas are open. -/
def loadWithin (s : Shelf) : (room : Nat) → (isTarget : Bool) → (path : String) → Loading Unit
  | 0, _, _ => pure ()
  | room + 1, isTarget, path => do
    let place ← ExceptT.mk (pure ((s.disk.locate path).mapError (.unreadable path)))
    if place ∈ (← get).loaded then return
    modify fun l => { l with loaded := place :: l.loaded }
    let (schema, targets) ← ExceptT.mk (pure (s.read path))
    schema.imports.forM fun imported => do
      let found ← ExceptT.mk (pure (s.findImport path imported))
      loadWithin s room false found.path
    schema.files.forM addFile
    if isTarget then targets.forM addTarget

/-- Loads the schema at a path, the files of which are to be generated. -/
def load (s : Shelf) (path : String) : Loading Unit :=
  loadWithin s s.room true path

end ServiceCli.Load
