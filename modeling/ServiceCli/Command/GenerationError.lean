/-!
# Why a file cannot be generated

A field never makes a file fail: at worst it has no flag. What fails is a name that Go cannot
use, two commands of one name, a request without a type, and a target that is not loaded.
-/

namespace ServiceCli.Command

/-- What a name belongs to. -/
inductive Named where
  | service | method
  deriving DecidableEq, Repr

/-- The word for it in messages. -/
def Named.word : Named → String
  | service => "service"
  | method => "method"

/-- Why no code is generated for a file. -/
inductive GenerationError where
  | emptyName (what : Named) (parent : String)
  | invalidIdentifier (what : Named) (name : String)
  /-- Two methods of one service have the same command name. -/
  | duplicateSubcommand (service useName : String)
  | missingInputType (service method : String)
  | unknownFile (name : String)
  deriving DecidableEq, Repr

/-- The text of an error. -/
def GenerationError.message : GenerationError → String
  | emptyName what parent => what.word ++ " in '" ++ parent ++ "' has an empty name"
  | invalidIdentifier what name =>
    what.word ++ " name '" ++ name ++ "' is not a valid Go identifier"
  | duplicateSubcommand service useName =>
    "service '" ++ service ++ "' has more than one method named '" ++ useName
      ++ "' (case-insensitive)"
  | missingInputType service method =>
    "method '" ++ service ++ "." ++ method ++ "' has no usable input type"
  | unknownFile name => "no descriptor loaded for '" ++ name ++ "'"

end ServiceCli.Command
