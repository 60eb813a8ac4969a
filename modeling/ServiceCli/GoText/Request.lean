import ServiceCli.GoText.Literal
import ServiceCli.Request.Flag
import ServiceCli.Request.Skeleton

/-!
# The Go text of a request

A flag is one line of Go that registers it (`flagLine`). A skeleton is written over several
lines, one for each field and each one tab deeper than the message around it (`skeletonText`).
-/

namespace ServiceCli.GoText

open Request

/-- The line that registers a flag, or the comment that stands for a missing one. -/
def flagLine : Flag → String
  | .bind kind target flagName help =>
    "\tcmd.PersistentFlags()." ++ kind.binder ++ "(&" ++ target ++ ", " ++ goString flagName
      ++ ", " ++ kind.defaultLiteral ++ ", " ++ goString help ++ ")\n"
  | .unsupported note => "\tcmd.PersistentFlags() // Warning: " ++ note ++ "\n"

/-- The lines of a list of flags. -/
def flagLines (flags : List Flag) : String :=
  String.join (flags.map flagLine)

/-- A number of tabs. -/
def tabs (n : Nat) : String :=
  String.ofList (List.replicate n '\t')

mutual

/-- A skeleton that begins on a line with `indent` tabs. -/
def skeletonText (indent : Nat) : Skeleton → String
  | .construct t [] => "&" ++ t ++ "\x7b\x7d"
  | .construct t (f :: fs) =>
    "&" ++ t ++ "\x7b\n" ++ fieldTexts indent (f :: fs) ++ tabs indent ++ "\x7d"
  | .emptyList t => "[]*" ++ t ++ "\x7b\x7d"
  | .nothing => "nil"

/-- The lines of the fields of a message that begins on a line with `indent` tabs. -/
def fieldTexts (indent : Nat) : List (String × Skeleton) → String
  | [] => ""
  | (name, value) :: fs =>
    tabs (indent + 1) ++ name ++ ": " ++ skeletonText (indent + 1) value ++ ",\n"
      ++ fieldTexts indent fs

end

end ServiceCli.GoText
