import ServiceCli.GoFile.Build
import ServiceCli.GoText.File

/-!
# Generating files

`generateFile` builds and writes one file. `generateFiles` does so for every target among the
files at hand; what fails in one target does not touch the others.
-/

namespace ServiceCli

open Command Proto

/-- A written file. -/
structure GeneratedFile where
  name : String
  content : String
  deriving DecidableEq, Repr

/-- What became of a target. -/
structure Outcome where
  source : String
  result : Except GenerationError (Option GeneratedFile)

/-- A built file, written. -/
def GoFile.written (f : GoFile) : GeneratedFile :=
  ⟨f.outputName, GoText.fileText f⟩

/-- The generated file of a `.proto` file, written. -/
def generateFile (f : File) (imports : ImportMap) (o : Options) :
    Except GenerationError (Option GeneratedFile) :=
  (buildFile f imports o).map (Option.map GoFile.written)

/-- The file of that name. -/
def fileNamed? (files : List File) (name : String) : Option File :=
  files.find? (·.name == name)

/-- What becomes of one target. -/
def generateTarget (files : List File) (o : Options) (target : String) : Outcome :=
  ⟨target,
    match fileNamed? files target with
    | some f => generateFile f (.ofFiles files o) o
    | none => .error (.unknownFile target)⟩

/-- What becomes of each target, in order. -/
def generateFiles (files : List File) (targets : List String) (o : Options) : List Outcome :=
  targets.map (generateTarget files o)

end ServiceCli
