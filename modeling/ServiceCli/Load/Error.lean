import ServiceCli.Disk.Basic

/-!
# Why a schema cannot be loaded

Paths in these errors are those by which a schema was reached, and for an imported one the path
from the root of the disk.
-/

namespace ServiceCli.Load

/-- Why a schema cannot be loaded. -/
inductive LoadError where
  | unreadable (path : String) (fault : Fault)
  | malformedYaml (path : String)
  | malformedJson (path : String)
  /-- The bytes are no set of descriptors. -/
  | malformedDescriptors
  | unsupportedFormat (path : String)
  | importNotFound (imported base : String)
  /-- Two schemas declare different files of one name. -/
  | conflictingFile (name : String)
  deriving DecidableEq, Repr

/-- The text of an error. -/
def LoadError.message : LoadError → String
  | unreadable path fault => "failed to read '" ++ path ++ "': " ++ fault.message
  | malformedYaml path => "failed to parse YAML schema '" ++ path ++ "'"
  | malformedJson path => "failed to parse JSON schema '" ++ path ++ "'"
  | malformedDescriptors => "failed to decode FileDescriptorSet"
  | unsupportedFormat path =>
    "unsupported schema file extension for '" ++ path
      ++ "' (expected .yaml, .yml, .json, .pb or .desc)"
  | importNotFound imported base =>
    "import '" ++ imported ++ "' not found relative to '" ++ base ++ "' or in include directories"
  | conflictingFile name =>
    "descriptor for '" ++ name ++ "' was loaded twice with different contents"

end ServiceCli.Load
