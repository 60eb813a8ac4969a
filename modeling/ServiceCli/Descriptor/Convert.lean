import ServiceCli.Descriptor
import ServiceCli.Proto.File

/-!
# From descriptors to files

A descriptor becomes a file of the same shape: messages, nested messages, services and methods
correspond one to one and in order. Absent names are empty and absent switches are off. Only a
field whose kind is absent or unknown is left out.
-/

namespace ServiceCli.Descriptor

/-- The number of the label of a repeated field. -/
def repeatedLabel : Int := 3

/-- The field that is described, if its kind is known. An empty type name is none. -/
def Field.toProto? (f : Field) : Option Proto.Field :=
  (f.type.bind Proto.WireType.ofNumber?).map fun wireType => {
    name := f.name.getD ""
    jsonName := f.jsonName
    wireType := wireType
    label := if f.label = some repeatedLabel then .repeated else .singular
    typeName := f.typeName.filter (· != "")
    proto3Optional := f.proto3Optional.getD false
    oneofIndex := f.oneofIndex }

mutual

/-- The message that is described. -/
def Message.toProto : Message → Proto.Message
  | ⟨name, fields, nested, mapEntry⟩ =>
    ⟨name.getD "", fields.filterMap Field.toProto?, toProtoList nested, mapEntry.getD false⟩

/-- The messages that are described. -/
def Message.toProtoList : List Message → List Proto.Message
  | [] => []
  | m :: ms => m.toProto :: toProtoList ms

end

theorem Message.toProtoList_eq_map (ms : List Message) :
    Message.toProtoList ms = ms.map Message.toProto := by
  induction ms with
  | nil => rfl
  | cons m ms ih => rw [Message.toProtoList, ih, List.map_cons]

/-- The method that is described. -/
def Method.toProto (m : Method) : Proto.Method where
  name := m.name.getD ""
  inputType := m.inputType.getD ""
  outputType := m.outputType.getD ""
  clientStreaming := m.clientStreaming.getD false
  serverStreaming := m.serverStreaming.getD false

/-- The service that is described. -/
def Service.toProto (s : Service) : Proto.Service :=
  ⟨s.name.getD "", s.methods.map Method.toProto⟩

/-- The file that is described. -/
def File.toProto (f : File) : Proto.File where
  name := f.name.getD ""
  package := f.package.getD ""
  goPackage := f.goPackage
  dependencies := f.dependencies
  messages := f.messages.map Message.toProto
  services := f.services.map Service.toProto

end ServiceCli.Descriptor
