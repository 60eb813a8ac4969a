import ServiceCli.Descriptor.Reading
import ServiceCli.Json.Reading
import ServiceCli.Path
import ServiceCli.Reading.Model
import ServiceCli.Schema
import ServiceCli.Yaml.Reading

/-!
# Formats of schemas

A schema is written in YAML or JSON, or it is a compiled set of descriptors. The extension of its
path tells which (`SchemaFormat.ofPath?`).
-/

namespace ServiceCli.Load

/-- How a schema is written. -/
inductive SchemaFormat where
  | yaml | json
  /-- A set of descriptors, as the protocol compiler writes it. -/
  | descriptorSet
  deriving DecidableEq, Repr

namespace SchemaFormat

/-- The format for an extension. -/
def ofExtension? (extension : String) : Option SchemaFormat :=
  if extension = "yaml" ∨ extension = "yml" then some yaml
  else if extension = "json" then some json
  else if extension = "pb" ∨ extension = "desc" ∨ extension = "protoset" then some descriptorSet
  else none

/-- The format of the schema at a path. -/
def ofPath? (path : String) : Option SchemaFormat :=
  (Path.extension? path).bind ofExtension?

/-- Whether schemas in the format are texts. -/
def isText : SchemaFormat → Bool
  | yaml | json => true
  | descriptorSet => false

/-- The names of the files of a schema that are generated when the schema is given. -/
def targets (f : SchemaFormat) (s : Schema) : List String :=
  match f with
  | descriptorSet => s.rootNames
  | _ => s.fileNames

end SchemaFormat

/-- The schema in a YAML text. -/
def schemaOfYaml? (s : String) : Option Schema :=
  Yaml.read? (fun F => F.schema) s

/-- The schema in a JSON text. -/
def schemaOfJson? (s : String) : Option Schema :=
  (Json.ofText? s).bind (Json.read? fun F => F.schema)

/-- The schema in a compiled set of descriptors. -/
def schemaOfDescriptorSet? (bytes : List UInt8) : Option Schema :=
  (Descriptor.filesOf? bytes).map fun files => { files := files }

end ServiceCli.Load
