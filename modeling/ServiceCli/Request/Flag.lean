import ServiceCli.Request.FlagKind
import ServiceCli.Text.Quoted

/-!
# Flags of a command

A field of a request is either bound to a flag or left with a note that says why it has none.
The reasons that this program knows are the cases of `Obstacle`.
-/

namespace ServiceCli.Request

open Text

/-- A flag of a command, or a note in place of one. -/
inductive Flag where
  /-- Binds the request field at the Go expression `target`. -/
  | bind (kind : FlagKind) (target flagName help : String)
  | unsupported (note : String)
  deriving DecidableEq, Repr, Inhabited

/-- Why a field, or a whole message, has no flags. -/
inductive Obstacle where
  | oneofMember (field : String)
  | mapField (message : String)
  | list (field : String)
  | optionalScalar (field : String)
  deriving DecidableEq, Repr

/-- The note that is left in the generated command. -/
def Obstacle.note : Obstacle → String
  | oneofMember f => "oneof flags are not yet supported (field " ++ quoted f ++ ")"
  | mapField m => "map flags are not yet supported (message " ++ quoted m ++ ")"
  | list f => "list flags are not yet supported (field " ++ quoted f ++ ")"
  | optionalScalar f => "optional flags are not yet supported (field " ++ quoted f ++ ")"

namespace Flag

/-- The note for an obstacle, in place of a flag. -/
def blocked (o : Obstacle) : Flag :=
  unsupported o.note

/-- The name of the flag, if there is one. -/
def flagName? : Flag → Option String
  | bind _ _ name _ => some name
  | unsupported _ => none

/-- Whether this is a flag and not a note. -/
def isBind : Flag → Bool
  | bind .. => true
  | unsupported _ => false

end Flag

end ServiceCli.Request
