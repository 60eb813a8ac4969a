import ServiceCli.Options.Basic
import ServiceCli.Reading.Format
import ServiceCli.Schema

/-!
# Reading files and options

How schemas, files, messages, services and options are read from a data format. Every record has
named entries; those that may be left out have defaults, and unknown ones are skipped.
-/

namespace ServiceCli

open Proto

namespace Format

variable {V : Type} (F : Format V)

/-- A field. -/
def field (room : Nat) (v : V) : Reading Field := do
  let es ← F.record room ["name", "json-name", "wire-type", "label", "type-name",
    "proto3-optional", "oneof-index"] v
  return {
    name := ← required "name" F.text es
    jsonName := ← given "json-name" none (F.nullable F.text) es
    wireType := ← required "wire-type" (F.caseOf WireType.ofName? (room - 1)) es
    label := ← given "label" .singular (F.caseOf Label.ofName? (room - 1)) es
    typeName := ← given "type-name" none (F.nullable F.text) es
    proto3Optional := ← given "proto3-optional" false F.bool es
    oneofIndex := ← given "oneof-index" none (F.nullable F.int32) es }

/-- A message, given how those nested in it are read. -/
def messageWith (nested : V → Reading Message) (room : Nat) (v : V) : Reading Message := do
  let es ← F.record room ["name", "fields", "nested-types", "map-entry"] v
  return {
    name := ← required "name" F.text es
    fields := ← given "fields" [] (F.listOf F.field (room - 1)) es
    nested := ← given "nested-types" [] (F.listOf (fun _ => nested) (room - 1)) es
    mapEntry := ← given "map-entry" false F.bool es }

/-- A message. Those nested in it stand in a list and so have two levels less of room; without
that much room there are none. -/
def message : Nat → V → Reading Message
  | room + 2, v => F.messageWith (message room) (room + 2) v
  | room, v => F.messageWith (fun _ => failure) room v

/-- A method. -/
def method (room : Nat) (v : V) : Reading Method := do
  let es ← F.record room ["name", "input-type", "output-type", "client-streaming",
    "server-streaming"] v
  return {
    name := ← required "name" F.text es
    inputType := ← required "input-type" F.text es
    outputType := ← required "output-type" F.text es
    clientStreaming := ← given "client-streaming" false F.bool es
    serverStreaming := ← given "server-streaming" false F.bool es }

/-- A service. -/
def service (room : Nat) (v : V) : Reading Service := do
  let es ← F.record room ["name", "methods"] v
  return {
    name := ← required "name" F.text es
    methods := ← given "methods" [] (F.listOf F.method (room - 1)) es }

/-- A list of texts. -/
def texts (room : Nat) (v : V) : Reading (List String) :=
  F.listOf (fun _ => F.text) room v

/-- A file. -/
def file (room : Nat) (v : V) : Reading File := do
  let es ← F.record room ["name", "package", "go-package", "dependencies", "messages",
    "services"] v
  return {
    name := ← required "name" F.text es
    package := ← given "package" "" F.text es
    goPackage := ← given "go-package" none (F.nullable F.text) es
    dependencies := ← given "dependencies" [] (F.texts (room - 1)) es
    messages := ← given "messages" [] (F.listOf F.message (room - 1)) es
    services := ← given "services" [] (F.listOf F.service (room - 1)) es }

/-- A schema. -/
def schema (room : Nat) (v : V) : Reading Schema := do
  let es ← F.record room ["imports", "files"] v
  return {
    imports := ← given "imports" [] (F.texts (room - 1)) es
    files := ← given "files" [] (F.listOf F.file (room - 1)) es }

/-- A table of texts. The last value of a repeated key counts. -/
def table (room : Nat) (v : V) : Reading Table := do
  let es ← F.entries room v
  return Table.ofList (← es.mapM fun (k, w) => return (k, ← F.text w))

/-- The options of the generator. -/
def options (room : Nat) (v : V) : Reading Options := do
  let es ← F.record room ["paths", "import-prefix", "import-overrides", "server-addr",
    "response-format", "timeout-secs", "auth-token-type", "help-text"] v
  let o : Options := {}
  return {
    paths := ← given "paths" o.paths (F.caseOf Layout.ofName? (room - 1)) es
    importPrefix := ← given "import-prefix" o.importPrefix F.text es
    importOverrides := ← given "import-overrides" o.importOverrides (F.table (room - 1)) es
    serverAddr := ← given "server-addr" o.serverAddr F.text es
    responseFormat := ← given "response-format" o.responseFormat F.text es
    timeoutSecs := ← given "timeout-secs" o.timeoutSecs F.nat64 es
    authTokenType := ← given "auth-token-type" o.authTokenType F.text es
    helpText := ← given "help-text" o.helpText F.text es }

end Format

end ServiceCli
