/-!
# Data formats

Schemas and options are written in a data format. What the format fixes is how its values `V`
are read: as a text, a number, a list, a record and so on. A `Format` holds these readers, so
that `ServiceCli.Reading.Model` can say once for all formats how files, messages and options
are read.

Lists and records may be nested only so deep: a reader of one is told how much `room` is left and
reads what is inside with one less. A format may also bound the work as a whole, so a `Reading`
carries the number of steps that are left.
-/

namespace ServiceCli

/-- A result of reading, if there is one, and the steps that are left. -/
abbrev Reading := StateT Nat Option

/-- How the values of a data format are read. -/
structure Format (V : Type) where
  text : V → Reading String
  bool : V → Reading Bool
  /-- A whole number of 32 bits with a sign. -/
  int32 : V → Reading Int
  /-- A whole number of 64 bits without a sign. -/
  nat64 : V → Reading Nat
  /-- The name of a case. -/
  case : Nat → V → Reading String
  /-- Nothing for the value that stands for an absent one. -/
  optional : V → Reading (Option V)
  list : Nat → V → Reading (List V)
  /-- The entries of a record whose keys are among the names. A repeated name is refused, and
  entries of other names are left out. -/
  record : Nat → List String → V → Reading (List (String × V))
  /-- All entries of a record. -/
  entries : Nat → V → Reading (List (String × V))
  /-- How deep lists and records may be nested. -/
  room : Nat

namespace Format

variable {V α : Type}

/-- The entries whose keys are among `names`, unless one of those keys is repeated. -/
def chosen (names : List String) (entries : List (String × V)) : Option (List (String × V)) :=
  let known := entries.filter fun e => names.contains e.1
  if (known.map Prod.fst).Nodup then some known else none

/-- An optional value. -/
def nullable (F : Format V) (read : V → Reading α) (v : V) : Reading (Option α) := do
  match ← F.optional v with
  | some w => return some (← read w)
  | none => return none

/-- A list, the items of which are read with the room inside it. -/
def listOf (F : Format V) (item : Nat → V → Reading α) (room : Nat) (v : V) :
    Reading (List α) := do
  (← F.list room v).mapM (item (room - 1))

/-- A case, by its name. -/
def caseOf (F : Format V) (ofName? : String → Option α) (room : Nat) (v : V) : Reading α := do
  StateT.lift (ofName? (← F.case room v))

/-- The value of an entry that has to be there. -/
def required (name : String) (read : V → Reading α) (entries : List (String × V)) :
    Reading α :=
  match entries.lookup name with
  | some v => read v
  | none => failure

/-- The value of an entry, or a default when it is not there. -/
def given (name : String) (default : α) (read : V → Reading α) (entries : List (String × V)) :
    Reading α :=
  match entries.lookup name with
  | some v => read v
  | none => pure default

end Format

end ServiceCli
