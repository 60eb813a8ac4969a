import ServiceCli.Command.Assembly
import ServiceCli.GoFile.Imports
import ServiceCli.Request.Allocation

/-!
# Building a generated file

`buildFile` makes the generated file of a `.proto` file: for each method a request
(`requestOf`), a subcommand from it, and for each service the parts around its subcommands. The
first error ends the work. A file without services has no generated file.

The request of a method is one of three kinds. A message that the file declares gets flags and
a skeleton. A message of the file's own package that it does not declare, and one of another
package, are opaque: they are allocated without fields, and the latter is imported.
-/

namespace ServiceCli

open Command Proto Request ServiceCli.Tree

/-- The messages that a file declares. -/
def Proto.File.declarations (f : File) : Declarations :=
  ⟨f.messages, f.package⟩

/-- What a command needs to know about its request. -/
structure RequestPlan where
  init : Skeleton
  flags : List Flag
  /-- The package of the request type, when it is another one. -/
  imported : Option GoImport
  deriving Repr

/-- A request of which no more than its Go type is known. -/
def RequestPlan.ofTypeName (typeName : String) (imported : Option GoImport) : RequestPlan :=
  ⟨.bare typeName, [], imported⟩

/-- The skeleton and the flags of a request that is declared here. -/
def declaredRequest (d : Declarations) (help ref : String) :
    Lookup (Option (Skeleton × List Flag)) := do
  match ← d.resolveReference ref with
  | none => return none
  | some s =>
    let found ← flags d "reqArgs" "" s help
    return some (← skeleton d s s.typePrefix 0, found)

/-- A request type of another package. It is named with its package when the path of that one
is known. -/
def foreignRequest (imports : ImportMap) (ref : String) : RequestPlan :=
  let q := QualifiedName.ofReference ref
  match q.importAlias, imports.get? q.package with
  | some name, some path => .ofTypeName (name ++ "." ++ q.typeName) (some ⟨name, path⟩)
  | _, _ => .ofTypeName q.typeName none

/-- The request of a method. -/
def requestOf (f : File) (imports : ImportMap) (o : Options) (m : Method) : RequestPlan :=
  match relativePath f.package m.inputType with
  | some path =>
    match ((declaredRequest f.declarations o.helpText m.inputType).run {}).1 with
    | some (init, found) => ⟨init, found, none⟩
    | none => .ofTypeName (String.intercalate "_" path) none
  | none => foreignRequest imports m.inputType

/-- The subcommand of a method, and the import that its request needs. -/
def buildSubcommand (f : File) (imports : ImportMap) (o : Options) (s : Service) (m : Method) :
    Except GenerationError (Subcommand × Option GoImport) := do
  let plan := requestOf f imports o m
  return (← assemble s.name m plan.init plan.flags, plan.imported)

/-- The parts of a service, and the imports that its requests need. -/
def buildService (f : File) (imports : ImportMap) (o : Options) (s : Service) :
    Except GenerationError (List CommandUnit × List GoImport) := do
  let built ← s.methods.mapM (buildSubcommand f imports o s)
  let units ← assembleService s (built.map Prod.fst) o.connectionDefaults
  return (units, built.filterMap Prod.snd)

/-- Whether some method of the file has a stream. -/
def Proto.File.hasStream (f : File) : Bool :=
  f.services.any fun s => s.methods.any fun m => (StreamingMode.ofMethod m).isStreaming

/-- The generated file of a `.proto` file, or nothing when it has no services. -/
def buildFile (f : File) (imports : ImportMap) (o : Options) :
    Except GenerationError (Option GoFile) := do
  if f.hasServices then
    let built ← f.services.mapM (buildService f imports o)
    return some {
      source := f.name
      outputName := o.outputName f
      package := f.goPackageName
      imports := fileImports o f.hasStream (built.flatMap Prod.snd)
      units := built.flatMap Prod.fst }
  else return none

end ServiceCli
