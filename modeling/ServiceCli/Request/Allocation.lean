import ServiceCli.Name.GoField
import ServiceCli.Request.FlagWalk
import ServiceCli.Request.Skeleton

/-!
# Allocating a request

`skeleton` builds the skeleton of a request message: every singular message field that the walk
for flags can enter is allocated, and every list of messages is made empty. Fields that are
members of a `oneof`, that refer to a map entry or that find no declaration are left out, as is
a message that is already being allocated on the way to it.
-/

namespace ServiceCli.Request

open Proto ServiceCli.Tree

/-- The skeleton of the message at a site, given the positions of those being allocated. -/
abbrev Allocator := List Position → Site → Lookup Skeleton

/-- The skeleton of the value of a field that refers to the declaration at `s`. -/
def fieldSkeleton (inner : Allocator) (active : List Position) (f : Field) (s : Site) :
    Lookup Skeleton :=
  if f.isRepeated then pure (.emptyList s.goName)
  else if active.contains s.position then pure .nothing
  else inner (s.position :: active) s

/-- Adds the fields that are left to those of a message. -/
def allocateFields (d : Declarations) (inner : Allocator) (active : List Position) :
    List Field → List (String × Skeleton) → Lookup (List (String × Skeleton))
  | [], out => pure out
  | f :: fs, out => do
    if f.holdsMessage then
      match ← d.resolveField f with
      | some s =>
        if s.message.mapEntry then allocateFields d inner active fs out
        else
          let value ← fieldSkeleton inner active f s
          if value.isNothing then allocateFields d inner active fs out
          else allocateFields d inner active fs (Skeleton.setField f.goName value out)
      | none => allocateFields d inner active fs out
    else allocateFields d inner active fs out

/-- The skeleton of the message at a site, whose Go type is given. Messages are allocated to the
depth of the first argument, this one included. -/
def allocate (d : Declarations) : Nat → String → List Position → Site → Lookup Skeleton
  | 0, _, _, _ => pure .nothing
  | room + 1, typeName, active, s => do
    let fields ← allocateFields d (fun active s => allocate d room s.goName active s) active
      s.message.fields []
    return .construct typeName fields

/-- The skeleton of the message at a site, whose Go type is `typePrefix` and its name, when it
stands at a depth below the request. -/
def skeleton (d : Declarations) (s : Site) (typePrefix : String) (depth : Nat) :
    Lookup Skeleton :=
  allocate d (maxDepth + 1 - depth) (typePrefix ++ s.message.name) [s.position] s

end ServiceCli.Request
