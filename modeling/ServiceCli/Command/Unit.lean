import ServiceCli.Command.Streaming
import ServiceCli.Request.Flag
import ServiceCli.Request.Skeleton

/-!
# The parts of a generated file

For each service a generated file holds a group command (`ServiceGroup`), one subcommand for each
method (`Subcommand`) and the list that registers them. These values carry names and Go types
but no Go text.
-/

namespace ServiceCli.Command

open Request

/-- The command for one method. -/
structure Subcommand where
  /-- The Go name of the service. -/
  service : String
  /-- The Go name of the method. -/
  method : String
  /-- The Go function that makes the command. -/
  constructor : String
  /-- The name by which the command is called. -/
  useName : String
  long : String
  /-- The Go type of the request. -/
  inputType : String
  init : Skeleton
  flags : List Flag
  mode : StreamingMode
  steps : List Step
  deriving Repr, Inhabited

/-- What the connection flags of a service hold when they are not given. -/
structure ConnectionDefaults where
  serverAddr : String
  responseFormat : String
  timeoutSecs : Nat
  authTokenType : String
  deriving DecidableEq, Repr, Inhabited

/-- The command of a service, under which those of its methods stand. -/
structure ServiceGroup where
  name : String
  useName : String
  defaults : ConnectionDefaults
  deriving DecidableEq, Repr, Inhabited

/-- A part of a generated file. -/
inductive CommandUnit where
  | group (group : ServiceGroup)
  | subcommand (subcommand : Subcommand)
  /-- The list of the functions that make the subcommands of a service. -/
  | subcommandList (service : String) (constructors : List String)
  deriving Repr, Inhabited

/-- The subcommand that a part is, if it is one. -/
def CommandUnit.subcommand? : CommandUnit → Option Subcommand
  | subcommand s => some s
  | _ => none

end ServiceCli.Command
