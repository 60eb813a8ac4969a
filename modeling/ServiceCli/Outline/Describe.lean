import ServiceCli.GoFile
import ServiceCli.Options.Basic
import ServiceCli.Outline

/-!
# Outlines of generated files

What a generated file, a part of it or a set of options looks like as an outline. The case of
something that has several is told by an entry that comes first.
-/

namespace ServiceCli

open Command Request

namespace Outline

/-- A list of texts. -/
def texts (ss : List String) : Outline :=
  list (ss.map text)

/-- A table as a record, in the order of its keys. -/
def table (t : Table) : Outline :=
  record (t.map fun (k, v) => (k, text v))

end Outline

open Outline

mutual

/-- A skeleton. -/
def Request.Skeleton.outline : Skeleton → Outline
  | .construct t fs =>
    record [("kind", text "construct"), ("type_name", text t),
      ("fields", record (fieldOutlines fs))]
  | .emptyList t => record [("kind", text "empty-list"), ("type_name", text t)]
  | .nothing => record [("kind", text "empty")]

/-- The fields of a skeleton. -/
def Request.Skeleton.fieldOutlines : List (String × Skeleton) → List (String × Outline)
  | [] => []
  | (name, value) :: fs => (name, value.outline) :: fieldOutlines fs

end

/-- A flag. -/
def Request.Flag.outline : Flag → Outline
  | .bind kind target flagName help =>
    record [("kind", text "bind"), ("binding", text kind.name), ("target", text target),
      ("flag_name", text flagName), ("help", text help)]
  | .unsupported note => record [("kind", text "unsupported"), ("note", text note)]

namespace Command

/-- The entries of a subcommand. -/
def Subcommand.entries (s : Subcommand) : List (String × Outline) := [
  ("service", text s.service),
  ("method", text s.method),
  ("constructor", text s.constructor),
  ("use-name", text s.useName),
  ("long", text s.long),
  ("input-type", text s.inputType),
  ("init", s.init.outline),
  ("flags", list (s.flags.map Flag.outline)),
  ("mode", text s.mode.name),
  ("steps", texts (s.steps.map Step.name))]

/-- A subcommand. -/
def Subcommand.outline (s : Subcommand) : Outline :=
  record s.entries

/-- The connection defaults of a service. -/
def ConnectionDefaults.outline (d : ConnectionDefaults) : Outline :=
  record [
    ("server-addr", text d.serverAddr),
    ("response-format", text d.responseFormat),
    ("timeout-secs", number d.timeoutSecs),
    ("auth-token-type", text d.authTokenType)]

/-- A part of a generated file. -/
def CommandUnit.outline : CommandUnit → Outline
  | .group g =>
    record [("unit", text "service-group"), ("name", text g.name), ("use-name", text g.useName),
      ("defaults", g.defaults.outline)]
  | .subcommand s => record (("unit", text "subcommand") :: s.entries)
  | .subcommandList service constructors =>
    record [("unit", text "subcommand-list"), ("service", text service),
      ("constructors", texts constructors)]

end Command

/-- An import. -/
def GoImport.outline (i : GoImport) : Outline :=
  record [("alias", text i.name), ("path", text i.path)]

/-- A generated file. -/
def GoFile.outline (f : GoFile) : Outline :=
  record [
    ("source", text f.source),
    ("output-name", text f.outputName),
    ("package", text f.package),
    ("imports", list (f.imports.map GoImport.outline)),
    ("units", list (f.units.map CommandUnit.outline))]

/-- The options. -/
def Options.outline (o : Options) : Outline :=
  record [
    ("paths", text o.paths.name),
    ("import-prefix", text o.importPrefix),
    ("import-overrides", table o.importOverrides),
    ("server-addr", text o.serverAddr),
    ("response-format", text o.responseFormat),
    ("timeout-secs", number o.timeoutSecs),
    ("auth-token-type", text o.authTokenType),
    ("help-text", text o.helpText)]

end ServiceCli
