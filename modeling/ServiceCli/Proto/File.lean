import ServiceCli.Proto.Message
import ServiceCli.Text.Pieces

/-!
# Services and files

A service is a list of methods, each with a request and a response type. A file declares
messages and services in one package. Its Go package is named by `goPackageName`, which takes
the declared Go package, else the package of the file, else the name of the file. The path from
which Go code imports it is the declared one (`goImportPath`).
-/

namespace ServiceCli.Proto

open Text

/-- A method of a service. -/
structure Method where
  name : String
  inputType : String
  outputType : String
  clientStreaming : Bool := false
  serverStreaming : Bool := false
  deriving DecidableEq, Repr, Inhabited

/-- A service with its methods, in order. -/
structure Service where
  name : String
  methods : List Method := []
  deriving DecidableEq, Repr, Inhabited

/-- What one `.proto` file declares. -/
structure File where
  /-- The path of the file below the include root. -/
  name : String
  package : String := ""
  goPackage : Option String := none
  dependencies : List String := []
  messages : List Message := []
  services : List Service := []
  deriving DecidableEq, Repr, Inhabited

namespace File

/-- The declared Go package, if it is not empty. -/
def declaredGoPackage (f : File) : Option String :=
  f.goPackage.filter (· != "")

/-- A text with every character other than an ASCII letter, digit or underscore replaced by an
underscore. -/
def asPackageName (s : String) : String :=
  String.ofList (s.toList.map fun c => if c.isAlphanum || c == '_' then c else '_')

/-- The name of the file without its directories and its ending. -/
def stem (f : File) : String :=
  dropTail ".proto" (lastPiece '/' f.name)

/-- The Go package of code that is generated beside this file. -/
def goPackageName (f : File) : String :=
  match f.declaredGoPackage with
  | some p =>
    match cutFirst ';' p with
    | some (_, name) => asPackageName name
    | none => asPackageName (lastPiece '/' p)
  | none => if f.package = "" then asPackageName f.stem else asPackageName f.package

/-- The Go import path of this file's package, if one is declared. -/
def goImportPath (f : File) : Option String :=
  f.declaredGoPackage.map fun p =>
    match cutFirst ';' p with
    | some (path, _) => path
    | none => p

/-- Whether the file declares a service. -/
def hasServices (f : File) : Bool :=
  !f.services.isEmpty

end File

end ServiceCli.Proto
