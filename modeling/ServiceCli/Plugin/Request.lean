import ServiceCli.Descriptor.Reading

/-!
# What the protocol compiler asks for

A plugin is handed the descriptors of all files at hand, dependencies first, the names of those
to generate and one parameter with the options.
-/

namespace ServiceCli.Plugin

open Wire

/-- What a plugin is asked to do. -/
structure Request where
  files : List Proto.File := []
  /-- The names of the files to generate. -/
  targets : List String := []
  parameter : String := ""
  deriving DecidableEq, Repr, Inhabited

/-- The request in a record. -/
def Request.ofRecord (r : Record) : Request where
  files := (r.records 15).map fun f => (Descriptor.File.ofRecord f).toProto
  targets := r.texts 1
  parameter := (r.text 2).getD ""

/-- The request that a list of bytes encodes. -/
def Request.read? (bytes : List UInt8) : Option Request :=
  (Record.read? .pluginRequest bytes).map Request.ofRecord

end ServiceCli.Plugin
