import ServiceCli.Cli.Arguments
import ServiceCli.Cli.Session
import ServiceCli.Generation
import ServiceCli.Outline.Describe
import ServiceCli.Outline.Yaml

/-!
# Printing outlines from the command line

`analyze` loads schemas, builds the generated file of every target and prints the outline of all of
them, or of the subcommand of one method. The first target that fails ends it.
-/

namespace ServiceCli.Cli

open Command Text

/-- The generated file of a target, built but not written. -/
def buildTarget (l : Load.Loader) (o : Options) (target : String) :
    Except GenerationError (Option GoFile) :=
  match fileNamed? l.files target with
  | some f => buildFile f (.ofFiles l.files o) o
  | none => .error (.unknownFile target)

/-- The generated files of all targets that have one. -/
def buildTargets (l : Load.Loader) (o : Options) : Except GenerationError (List GoFile) := do
  return (← l.targets.mapM (buildTarget l o)).filterMap id

/-- Whether two names differ in the case of ASCII letters at most. -/
def sameLetters (a b : String) : Bool :=
  a.toLower == b.toLower

/-- The subcommand of a method. -/
def findSubcommand (fs : List GoFile) (service method : String) : Option Subcommand :=
  (fs.flatMap GoFile.subcommands).find? fun s =>
    sameLetters s.service service && sameLetters s.method method

/-- The outline to print: that of all files, or that of the subcommand of one method. -/
def selectOutline (fs : List GoFile) : Option String → Except Failure Outline
  | none => .ok (.list (fs.map GoFile.outline))
  | some selector =>
    match cutFirst '.' selector with
    | none => .error (.selector selector)
    | some (service, method) =>
      match findSubcommand fs service method with
      | some s => .ok s.outline
      | none => .error (.noMethod selector)

/-- The text of an outline. -/
def OutlineFormat.text (o : Outline) : OutlineFormat → String
  | json => o.pretty
  | yaml => o.yaml

/-- The command that prints. -/
def analyze (a : AnalyzeArguments) : Act Unit := do
  let o ← optionsFrom a.config
  let l ← loadSchemas a.files a.includes
  let fs ← Act.of .generation (buildTargets l o)
  let outline ← Act.of id (selectOutline fs a.method)
  Act.printLine (a.format.text outline)

end ServiceCli.Cli
