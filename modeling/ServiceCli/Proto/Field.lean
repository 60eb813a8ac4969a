/-!
# Fields of a message

A field has a name, the kind of value it carries on the wire (`WireType`), whether it holds one
value or many (`Label`), and, for messages, enums and groups, the name of the type it refers to.
-/

namespace ServiceCli.Proto

/-- The kind of value that a field carries. -/
inductive WireType where
  | double | float | int64 | uint64 | int32 | fixed64 | fixed32 | bool | string | group | message
  | bytes | uint32 | enum | sfixed32 | sfixed64 | sint32 | sint64
  deriving DecidableEq, Repr, Inhabited

namespace WireType

/-- All kinds, in the order of their numbers, which start at 1. -/
def all : List WireType :=
  [double, float, int64, uint64, int32, fixed64, fixed32, bool, string, group, message, bytes,
    uint32, enum, sfixed32, sfixed64, sint32, sint64]

/-- The name of a kind in a schema file. -/
def name : WireType → String
  | double => "double"
  | float => "float"
  | int64 => "int64"
  | uint64 => "uint64"
  | int32 => "int32"
  | fixed64 => "fixed64"
  | fixed32 => "fixed32"
  | bool => "bool"
  | string => "string"
  | group => "group"
  | message => "message"
  | bytes => "bytes"
  | uint32 => "uint32"
  | enum => "enum"
  | sfixed32 => "sfixed32"
  | sfixed64 => "sfixed64"
  | sint32 => "sint32"
  | sint64 => "sint64"

/-- The kind of that name. -/
def ofName? (s : String) : Option WireType :=
  all.find? (·.name == s)

/-- The kind of that number in a descriptor. -/
def ofNumber? (n : Int) : Option WireType :=
  if 1 ≤ n then all[n.toNat - 1]? else none

/-- Whether values of this kind are messages. -/
def isMessage (w : WireType) : Bool :=
  w = message

theorem ofName?_name (w : WireType) : ofName? w.name = some w := by
  cases w <;> decide

/-- Exactly the numbers 1 to 18 have a kind. -/
theorem ofNumber?_isSome_iff (n : Int) : (ofNumber? n).isSome ↔ 1 ≤ n ∧ n ≤ 18 := by
  unfold ofNumber?
  split
  · next h =>
    have : all.length = 18 := rfl
    simp only [isSome_getElem?, this]
    omega
  · next h =>
    simp only [Option.isSome_none, Bool.false_eq_true, false_iff]
    omega

end WireType

/-- Whether a field holds one value or a list of them. -/
inductive Label where
  | singular | repeated
  deriving DecidableEq, Repr, Inhabited

namespace Label

/-- The name of a label in a schema file. -/
def name : Label → String
  | singular => "singular"
  | repeated => "repeated"

/-- The label of that name. -/
def ofName? (s : String) : Option Label :=
  [singular, repeated].find? (·.name == s)

end Label

/-- A field of a message. -/
structure Field where
  name : String
  /-- The name of the field in JSON, when the compiler has reported one. -/
  jsonName : Option String := none
  wireType : WireType
  label : Label := .singular
  /-- The type that a message, enum or group field refers to. A leading dot marks a fully
  qualified name; any other name is relative to the package of the file. -/
  typeName : Option String := none
  /-- Whether the field was declared with the keyword `optional`. -/
  proto3Optional : Bool := false
  /-- The index of the enclosing `oneof`, which for an optional field is a synthetic one. -/
  oneofIndex : Option Int := none
  deriving DecidableEq, Repr, Inhabited

namespace Field

/-- Whether the field holds a list. -/
def isRepeated (f : Field) : Bool :=
  f.label = .repeated

/-- Whether the field is a member of a declared `oneof`. -/
def inOneof (f : Field) : Bool :=
  f.oneofIndex.isSome && !f.proto3Optional

/-- Whether the field holds one message or a list of messages and stands outside every declared
`oneof`. Only such fields are followed to another declaration. -/
def holdsMessage (f : Field) : Bool :=
  f.wireType.isMessage && !f.inOneof

end Field

end ServiceCli.Proto
