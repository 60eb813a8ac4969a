import ServiceCli.Name.GoField
import ServiceCli.Request.Flag
import ServiceCli.Tree.LookupLog

/-!
# The flags of a request

`flags` walks a request message and collects one flag for each scalar that can be set. A
singular message field is entered, and the flags found in it carry its name: the scalar at the
Go expression `reqArgs.L0.L1` has the flag `l0-l1`.

The flags are collected in one array, in the order of the fields. A map field erases whatever
its message has contributed so far, at any depth, and leaves a single note in its place
(`flagsInto`). A message is not entered again while it is being walked, and the walk goes at
most ten messages deep below the request.
-/

namespace ServiceCli.Request

open Proto Text ServiceCli.Tree

/-- How many messages deep a request is walked and allocated. -/
def maxDepth : Nat := 10

/-- The surroundings of a message on a walk. -/
structure Place where
  /-- The Go expression that holds the message. -/
  path : String
  /-- What the names of its flags begin with. -/
  lead : String
  /-- The positions of the messages being walked, this one included, innermost first. -/
  active : List Position
  deriving DecidableEq, Repr

namespace Place

/-- The Go expression of a field here. -/
def target (p : Place) (f : Field) : String :=
  p.path ++ "." ++ f.goName

/-- The name of the flag for a field here. -/
def flagName (p : Place) (f : Field) : String :=
  p.lead ++ lowered f.goName

/-- The place of the message in a field here. -/
def enter (p : Place) (f : Field) (s : Site) : Place :=
  ⟨p.target f, p.flagName f ++ "-", s.position :: p.active⟩

end Place

/-- A walk of the message at a site: it adds to the flags collected so far. -/
abbrev Descent := Place → Site → Array Flag → Lookup (Array Flag)

/-- The flag or the note for a field that does not hold a message, if it has either. -/
def scalarFlag (help : String) (p : Place) (f : Field) : Option Flag :=
  if f.isRepeated then some (.blocked (.list f.name))
  else
    (FlagKind.ofWireType? f.wireType).map fun kind =>
      if f.proto3Optional then .blocked (.optionalScalar f.name)
      else .bind kind (p.target f) (p.flagName f) help

/-- Collects the flags of the fields of `owner` that are left. The array is cut back to `start`,
its size before the first field, when a map field is met. A `descend` of `none` enters no
message. -/
def fieldsInto (d : Declarations) (help : String) (descend : Option Descent) (p : Place)
    (owner : Message) (start : Nat) : List Field → Array Flag → Lookup (Array Flag)
  | [], out => pure out
  | f :: fs, out => do
    if f.inOneof then
      fieldsInto d help descend p owner start fs (out.push (.blocked (.oneofMember f.name)))
    else if f.wireType.isMessage then
      match ← d.resolveField f with
      | some s =>
        if s.message.mapEntry then
          return (out.take start).push (.blocked (.mapField owner.name))
        else if f.isRepeated then
          fieldsInto d help descend p owner start fs (out.push (.blocked (.list f.name)))
        else if p.active.contains s.position then
          fieldsInto d help descend p owner start fs out
        else
          match descend with
          | some walk =>
            fieldsInto d help descend p owner start fs (← walk (p.enter f s) s out)
          | none => fieldsInto d help descend p owner start fs out
      | none =>
        if f.isRepeated then
          fieldsInto d help descend p owner start fs (out.push (.blocked (.list f.name)))
        else fieldsInto d help descend p owner start fs out
    else
      match scalarFlag help p f with
      | some flag => fieldsInto d help descend p owner start fs (out.push flag)
      | none => fieldsInto d help descend p owner start fs out

/-- Adds the flags of the message at a site to those collected so far. Messages below it are
entered to the depth of the first argument. -/
def flagsInto (d : Declarations) (help : String) : Nat → Descent
  | 0, p, s, out => fieldsInto d help none p s.message out.size s.message.fields out
  | depth + 1, p, s, out =>
    fieldsInto d help (some (flagsInto d help depth)) p s.message out.size s.message.fields out

/-- The flags of the request message at a site, which the Go expression `path` holds. -/
def flags (d : Declarations) (path lead : String) (s : Site) (help : String) :
    Lookup (List Flag) := do
  return (← flagsInto d help maxDepth ⟨path, lead, [s.position]⟩ s #[]).toList

end ServiceCli.Request
