import ServiceCli.Descriptor.Convert
import ServiceCli.Wire.Record

/-!
# Reading descriptors

A descriptor is read from the record of a part on the wire. `filesOf?` reads the files of a
compiled set of descriptors.
-/

namespace ServiceCli.Descriptor

open Wire

/-- The description of a field in a record. -/
def Field.ofRecord (r : Record) : Field where
  name := r.text 1
  label := r.int32 4
  type := r.int32 5
  typeName := r.text 6
  oneofIndex := r.int32 9
  jsonName := r.text 10
  proto3Optional := r.bool 17

mutual

/-- The description of a message in a value that is a record. -/
def Message.ofValue? : Value → Option Message
  | .record fields =>
    let r : Record := fields
    some {
      name := r.text 1
      fields := (r.records 2).map Field.ofRecord
      nested := nestedIn fields
      mapEntry := (r.record 7).bind fun options => options.bool 7 }
  | _ => none

/-- The descriptions of the messages that a record holds as nested ones. -/
def Message.nestedIn : List (Nat × Value) → List Message
  | [] => []
  | (tag, v) :: rest =>
    if tag = 3 then
      match ofValue? v with
      | some m => m :: nestedIn rest
      | none => nestedIn rest
    else nestedIn rest

end

/-- The description of a method in a record. -/
def Method.ofRecord (r : Record) : Method where
  name := r.text 1
  inputType := r.text 2
  outputType := r.text 3
  clientStreaming := r.bool 5
  serverStreaming := r.bool 6

/-- The description of a service in a record. -/
def Service.ofRecord (r : Record) : Service :=
  ⟨r.text 1, (r.records 2).map Method.ofRecord⟩

/-- The description of a file in a record. -/
def File.ofRecord (r : Record) : File where
  name := r.text 1
  package := r.text 2
  goPackage := (r.record 8).bind fun options => options.text 11
  dependencies := r.texts 3
  messages := (r.all 4).filterMap Message.ofValue?
  services := (r.records 6).map Service.ofRecord

/-- The files of a compiled set of descriptors. -/
def filesOf? (bytes : List UInt8) : Option (List Proto.File) :=
  (Record.read? .fileSet bytes).map fun r =>
    (r.records 1).map fun f => (File.ofRecord f).toProto

end ServiceCli.Descriptor
