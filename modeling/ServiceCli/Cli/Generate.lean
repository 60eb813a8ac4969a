import ServiceCli.Cli.Arguments
import ServiceCli.Cli.Session
import ServiceCli.Disk.Writing
import ServiceCli.Generation
import ServiceCli.Wire.Writing

/-!
# Generating from the command line

`generate` loads schemas, generates every target and writes what was generated below a directory.
A target that fails does not keep the others from being written; at the end the command fails if
some target did.
-/

namespace ServiceCli.Cli

open Command

/-- A number in decimal digits. -/
def decimal (n : Nat) : String :=
  String.ofList (Nat.toDigits 10 n)

/-- What is reported before anything is loaded. -/
def configurationReport (a : GenerateArguments) (o : Options) : List String :=
  ["Cobra Generator - Code Generation Tool",
    "======================================",
    "",
    "[~] Configuration:",
    "  Output directory: " ++ a.output,
    "  Paths mode: " ++ o.paths.title,
    "  Input files: " ++ decimal a.files.length]
  ++ a.files.map ("    - " ++ ·)
  ++ (if a.includes.isEmpty then []
    else ("  Include directories: " ++ decimal a.includes.length)
      :: a.includes.map ("    - " ++ ·))
  ++ [""]

/-- What is reported after everything has been loaded. -/
def loadedReport (l : Load.Loader) : String :=
  "[~] Loaded " ++ decimal l.files.length ++ " descriptor(s), " ++ decimal l.targets.length
    ++ " target(s)"

/-- Writes a generated file below a directory, and gives its path. -/
def writeOutput (output : String) (g : GeneratedFile) : Act String := do
  let path := Path.join output g.name
  let session ← get
  let disk ← Act.of .output (session.disk.write path (Wire.textBytes g.content))
  set { session with disk := disk }
  return path

/-- Writes what was generated for a target, and tells whether the target failed. -/
def finishTarget (output : String) (verbose : Bool) (o : Outcome) : Act Bool := do
  match o.result with
  | .ok (some g) =>
    let path ← writeOutput output g
    if verbose then Act.printLine ("[+] " ++ o.source ++ " -> " ++ path)
    return false
  | .ok none =>
    if verbose then Act.printLine ("[-] " ++ o.source ++ " has no services, skipped")
    return false
  | .error _ => return true

/-- The options in the options file, with those given as arguments in place of them. -/
def generateOptionsOf (a : GenerateArguments) : Act Options := do
  let o ← optionsFrom a.config
  return match a.paths with
    | some l => { o with paths := l }
    | none => o

/-- The command that generates. -/
def generate (a : GenerateArguments) : Act Unit := do
  let o ← generateOptionsOf a
  if a.verbose then Act.printLines (configurationReport a o)
  let l ← loadSchemas a.files a.includes
  if a.verbose then Act.printLine (loadedReport l)
  let failed ← (generateFiles l.files l.targets o).mapM (finishTarget a.output a.verbose)
  match failed.count true with
  | 0 => return
  | n => throw (.targets n)

end ServiceCli.Cli
