import ServiceCli.GoFile
import ServiceCli.GoText.Fill
import ServiceCli.GoText.GroupTemplate
import ServiceCli.GoText.Subcommand

/-!
# The Go text of a generated file

`fileText` writes a generated file: a heading, the package, the imports and then the parts, each
after an empty line. Imports of the standard library come first and the others after an empty
line, both in the order of their paths.
-/

namespace ServiceCli.GoText

open Command

/-- The line of an import. -/
def importLine (i : GoImport) : String :=
  "\t" ++ i.name ++ " " ++ goString i.path ++ "\n"

/-- Imports in the order of their paths. Those of one path keep their order. -/
def byPath (is : List GoImport) : List GoImport :=
  is.mergeSort fun a b => decide (a.path ≤ b.path)

/-- The import block. -/
def importBlock (is : List GoImport) : String :=
  let standard := byPath (is.filter (·.isStandard))
  let external := byPath (is.filter fun i => !i.isStandard)
  "import (\n" ++ String.join (standard.map importLine)
    ++ (if standard.isEmpty || external.isEmpty then "" else "\n")
    ++ String.join (external.map importLine) ++ ")\n"

/-- What is put into the text of a service group. -/
def groupTokens (g : ServiceGroup) : List (String × String) := [
  ("$SERVER_ADDR", goString g.defaults.serverAddr),
  ("$RESPONSE_FORMAT", goString g.defaults.responseFormat),
  ("$TIMEOUT_SECS", String.ofList (Nat.toDigits 10 g.defaults.timeoutSecs)),
  ("$AUTH_TOKEN_TYPE", goString g.defaults.authTokenType),
  ("$USE", goString g.useName),
  ("$NAME", g.name)]

/-- The text of a service group. -/
def groupText (g : ServiceGroup) : String :=
  fill groupTemplate (groupTokens g)

/-- The list of the functions that make the subcommands of a service. -/
def subcommandListText (service : String) (constructors : List String) : String :=
  lines (("var _" ++ service ++ "ClientSubCommands = []func() *cobra.Command\x7b")
    :: constructors.map (fun c => "\t" ++ c ++ ",") ++ ["\x7d"])

/-- The text of a part. -/
def unitText : CommandUnit → String
  | .group g => groupText g
  | .subcommand s => subcommandText s
  | .subcommandList service constructors => subcommandListText service constructors

/-- The lines before the imports. -/
def heading (source package : String) : String :=
  lines [
    "// Code generated by protoc-gen-cobra. DO NOT EDIT.",
    "// source: " ++ source,
    "",
    "package " ++ package,
    ""]

/-- The lines after the imports. -/
def versionAssertion : String :=
  lines [
    "",
    "// This is a compile-time assertion to ensure that this generated file",
    "// is compatible with the grpc package it is being compiled against.",
    "const _ = grpc.SupportPackageIsVersion4"]

/-- Everything after the imports. -/
def body (units : List CommandUnit) : String :=
  versionAssertion ++ String.join (units.map fun u => "\n" ++ unitText u)

/-- The text of a generated file. -/
def fileText (f : GoFile) : String :=
  heading f.source f.package ++ importBlock f.imports ++ body f.units

end ServiceCli.GoText
