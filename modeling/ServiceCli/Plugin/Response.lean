import ServiceCli.Generation
import ServiceCli.Options.Parameter
import ServiceCli.Plugin.Request
import ServiceCli.Wire.Writing

/-!
# What a plugin answers

`respond` generates every target of a request. A target that fails adds a line to the error of
the response and leaves the files of the others alone. A parameter that cannot be used is the
only error then, and nothing is generated.
-/

namespace ServiceCli.Plugin

open Wire

/-- The answer of a plugin. -/
structure Response where
  error : Option String := none
  files : List GeneratedFile := []
  deriving DecidableEq, Repr, Inhabited

/-- The line for a target that failed. -/
def errorLine? (o : Outcome) : Option String :=
  match o.result with
  | .ok _ => none
  | .error e => some (o.source ++ ": " ++ e.message)

/-- The file that was generated for a target. -/
def generated? (o : Outcome) : Option GeneratedFile :=
  match o.result with
  | .ok g => g
  | .error _ => none

/-- The answer that reports what became of the targets. -/
def Response.ofOutcomes (outcomes : List Outcome) : Response where
  error := match outcomes.filterMap errorLine? with
    | [] => none
    | ls => some (String.intercalate "\n" ls)
  files := outcomes.filterMap generated?

/-- The answer to a request. -/
def respond (r : Request) : Response :=
  match Options.ofParameter r.parameter with
  | .ok o => .ofOutcomes (generateFiles r.files r.targets o)
  | .error e => { error := some e.message }

namespace Response

/-- What this plugin can handle: optional fields. -/
def supportedFeatures : Nat := 1

/-- A generated file on the wire. -/
def fileBytes (g : GeneratedFile) : List UInt8 :=
  bytesField 15 (textField 1 g.name ++ textField 15 g.content)

/-- The response on the wire. -/
def bytes (r : Response) : List UInt8 :=
  (match r.error with
    | some e => textField 1 e
    | none => [])
  ++ numberField 2 supportedFeatures ++ r.files.flatMap fileBytes

end Response

end ServiceCli.Plugin
