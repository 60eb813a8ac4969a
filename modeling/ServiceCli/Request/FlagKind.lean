import ServiceCli.Proto.Field

/-!
# Kinds of flags

A flag of a generated command holds a value of one of nine kinds. `FlagKind.ofWireType?` gives
the kind for a scalar field; enums, groups and messages have no flag.
-/

namespace ServiceCli.Request

open Proto

/-- The kind of value that a flag holds. -/
inductive FlagKind where
  | string | bytesBase64 | bool | float32 | float64 | int32 | int64 | uint32 | uint64
  deriving DecidableEq, Repr, Inhabited

namespace FlagKind

/-- The kind of flag for a field, which the four 32-bit and the four 64-bit signed encodings
share. -/
def ofWireType? : WireType → Option FlagKind
  | .string => some string
  | .bytes => some bytesBase64
  | .bool => some bool
  | .float => some float32
  | .double => some float64
  | .int32 | .fixed32 | .sfixed32 | .sint32 => some int32
  | .int64 | .fixed64 | .sfixed64 | .sint64 => some int64
  | .uint32 => some uint32
  | .uint64 => some uint64
  | .enum | .group | .message => none

/-- The name of a kind in printed command outlines. -/
def name : FlagKind → String
  | string => "string"
  | bytesBase64 => "bytes-base64"
  | bool => "bool"
  | float32 => "float32"
  | float64 => "float64"
  | int32 => "int32"
  | int64 => "int64"
  | uint32 => "uint32"
  | uint64 => "uint64"

/-- The method of a Go flag set that binds a flag of this kind. -/
def binder : FlagKind → String
  | string => "StringVar"
  | bytesBase64 => "BytesBase64Var"
  | bool => "BoolVar"
  | float32 => "Float32Var"
  | float64 => "Float64Var"
  | int32 => "Int32Var"
  | int64 => "Int64Var"
  | uint32 => "Uint32Var"
  | uint64 => "Uint64Var"

/-- The Go literal of the value that a flag has when it is not given. -/
def defaultLiteral : FlagKind → String
  | string => "\"\""
  | bytesBase64 => "[]byte\x7b\x7d"
  | bool => "false"
  | _ => "0"

/-- Messages have no flag of their own. -/
theorem ofWireType?_of_isMessage {w : WireType} (h : w.isMessage) : ofWireType? w = none := by
  cases w <;> simp_all [WireType.isMessage, ofWireType?]

end FlagKind

end ServiceCli.Request
