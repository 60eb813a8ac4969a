import ServiceCli.Wire.Varint

/-!
# Writing fields

A field is written as its key and its payload. Texts and nested parts are counted rows of bytes.
-/

namespace ServiceCli.Wire

/-- The bytes of a text. -/
def textBytes (s : String) : List UInt8 :=
  s.toUTF8.toList

/-- A field that holds a number. -/
def numberField (tag n : Nat) : List UInt8 :=
  numberBytes (tag * 8) ++ numberBytes n

/-- A field that holds a row of bytes. -/
def bytesField (tag : Nat) (bytes : List UInt8) : List UInt8 :=
  numberBytes (tag * 8 + 2) ++ numberBytes bytes.length ++ bytes

/-- A field that holds a text. -/
def textField (tag : Nat) (s : String) : List UInt8 :=
  bytesField tag (textBytes s)

end ServiceCli.Wire
