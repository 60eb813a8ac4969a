/-!
# Compiled descriptors

The protocol compiler describes a file by a descriptor. Everything in it may be absent, and some
of it is of no use to this program: what is kept here is what `ServiceCli.Descriptor.Convert`
turns into the files that commands are generated from.
-/

namespace ServiceCli.Descriptor

/-- The description of a field. -/
structure Field where
  name : Option String := none
  /-- The number of the label: one for an optional field, two for a required and three for a
  repeated one. -/
  label : Option Int := none
  /-- The number of the kind of value. -/
  type : Option Int := none
  typeName : Option String := none
  oneofIndex : Option Int := none
  jsonName : Option String := none
  proto3Optional : Option Bool := none
  deriving DecidableEq, Repr, Inhabited

/-- The description of a message. -/
structure Message where
  name : Option String := none
  fields : List Field := []
  nested : List Message := []
  mapEntry : Option Bool := none
  deriving Repr, Inhabited

/-- The description of a method. -/
structure Method where
  name : Option String := none
  inputType : Option String := none
  outputType : Option String := none
  clientStreaming : Option Bool := none
  serverStreaming : Option Bool := none
  deriving DecidableEq, Repr, Inhabited

/-- The description of a service. -/
structure Service where
  name : Option String := none
  methods : List Method := []
  deriving DecidableEq, Repr, Inhabited

/-- The description of a file. -/
structure File where
  name : Option String := none
  package : Option String := none
  goPackage : Option String := none
  dependencies : List String := []
  messages : List Message := []
  services : List Service := []
  deriving Repr, Inhabited

end ServiceCli.Descriptor
