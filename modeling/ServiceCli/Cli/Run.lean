import ServiceCli.Cli.Analyze
import ServiceCli.Cli.Generate
import ServiceCli.Plugin.Response

/-!
# Running a program

The two programs: one that takes commands (`run`), and a plugin that reads a request and writes
its response (`runPlugin`). A `Run` is what is left when one of them ends.
-/

namespace ServiceCli.Cli

/-- How a program ended. -/
inductive Ending where
  | done
  | failed (f : Failure)
  /-- The arguments were not understood, or help was asked for. -/
  | usage (u : Usage)
  deriving DecidableEq, Repr

/-- The exit code of a program. -/
def Ending.code : Ending → Nat
  | done => 0
  | failed _ => 1
  | usage .help => 0
  | usage .wrong => 2

/-- The line that is printed to report a failure. -/
def Ending.report? : Ending → Option String
  | failed f => some ("Error: " ++ f.message)
  | _ => none

/-- What is left when a program ends. -/
structure Run where
  session : Session
  ending : Ending
  deriving DecidableEq, Repr

/-- The steps of a command. -/
def Invocation.act : Invocation → Act Unit
  | generate a => Cli.generate a
  | analyze a => Cli.analyze a

/-- Runs the command that arguments ask for on a disk. -/
def run (disk : Disk) (args : List String) : Run :=
  match Invocation.ofArguments args with
  | .error u => ⟨{ disk := disk }, .usage u⟩
  | .ok i =>
    match i.act.run.run { disk := disk } with
    | (.ok _, session) => ⟨session, .done⟩
    | (.error f, session) => ⟨session, .failed f⟩

/-- The bytes that the plugin writes for those that it reads. -/
def runPlugin (input : List UInt8) : Except Failure (List UInt8) :=
  match Plugin.Request.read? input with
  | some r => .ok (Plugin.respond r).bytes
  | none => .error .request

end ServiceCli.Cli
