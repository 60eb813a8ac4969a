import ServiceCli.Command.GenerationError
import ServiceCli.Load.Loader
import ServiceCli.Options.File

/-!
# Sessions

A command runs on a disk and prints text. A `Session` holds both; what was printed and written
before a failure stays.
-/

namespace ServiceCli.Cli

open Load

/-- What a command has changed. -/
structure Session where
  disk : Disk := {}
  printed : String := ""
  deriving DecidableEq, Repr

/-- Why a command failed. -/
inductive Failure where
  | options (e : OptionsError)
  /-- A schema that the user named, or one that it imports, cannot be loaded. -/
  | schema (path : String) (e : LoadError)
  | generation (e : Command.GenerationError)
  | output (f : Fault)
  /-- So many targets failed. -/
  | targets (count : Nat)
  /-- A method is not named by two names with a dot between them. -/
  | selector (method : String)
  | noMethod (method : String)
  /-- The input is no request for a plugin. -/
  | request
  deriving DecidableEq, Repr

/-- The text of a failure. -/
def Failure.message : Failure → String
  | options e => e.message
  | schema path _ => "failed to load schema '" ++ path ++ "'"
  | generation e => e.message
  | output f => f.message
  | targets count => String.ofList (Nat.toDigits 10 count) ++ " file(s) failed to generate"
  | selector method => "expected Service.Method, got '" ++ method ++ "'"
  | noMethod method => "no method '" ++ method ++ "' in the loaded services"
  | request => "failed to decode CodeGeneratorRequest"

/-- A step of a command, which changes the session even if it fails. -/
abbrev Act := ExceptT Failure (StateM Session)

namespace Act

/-- The result of a computation, with its errors as failures. -/
def of {ε α : Type} (failure : ε → Failure) (r : Except ε α) : Act α :=
  ExceptT.mk (pure (r.mapError failure))

/-- Prints a line. -/
def printLine (s : String) : Act Unit :=
  modify fun session => { session with printed := session.printed ++ s ++ "\n" }

/-- Prints lines. -/
def printLines (ls : List String) : Act Unit :=
  ls.forM printLine

end Act

/-- The options in a file, or the defaults. -/
def optionsFrom (config : Option String) : Act Options := do
  match config with
  | some path => Act.of .options (Options.ofFile (← get).disk path)
  | none => return {}

/-- Loads schemas one after another, up to the first failure. -/
def loadAll (s : Shelf) : List String → Loader → Except Failure Loader
  | [], l => .ok l
  | path :: paths, l =>
    match (load s path).run.run l with
    | (.ok _, l) => loadAll s paths l
    | (.error e, _) => .error (.schema path e)

/-- What the schemas at some paths declare, with everything that they import. -/
def loadSchemas (files includes : List String) : Act Loader := do
  Act.of id (loadAll { disk := (← get).disk, includes := includes } files {})

end ServiceCli.Cli
