import ServiceCli.Command.Unit
import ServiceCli.Proto.File

/-!
# Options of the generator

The options fix where generated files are placed, under which paths packages are imported, what
the connection flags hold by default and which help text flags carry. `outputName` is the path
of the file that is generated for a `.proto` file.
-/

namespace ServiceCli

open Proto Text

/-- Where a generated file is placed. -/
inductive Layout where
  /-- Under the Go import path of its package. -/
  | importPath
  /-- Beside the `.proto` file. -/
  | sourceRelative
  deriving DecidableEq, Repr, Inhabited

namespace Layout

/-- The name of a layout in a parameter, in an options file and on the command line. -/
def name : Layout → String
  | importPath => "import"
  | sourceRelative => "source_relative"

/-- The layout of that name. -/
def ofName? (s : String) : Option Layout :=
  [importPath, sourceRelative].find? (·.name == s)

/-- The name of a layout in progress reports. -/
def title : Layout → String
  | importPath => "Import"
  | sourceRelative => "SourceRelative"

end Layout

/-- A table from texts to texts, in the order of its keys and with no key twice. -/
abbrev Table := List (String × String)

namespace Table

/-- Sets the value of a key. -/
def set (key value : String) : Table → Table
  | [] => [(key, value)]
  | (k, v) :: t =>
    if k = key then (key, value) :: t
    else if key < k then (key, value) :: (k, v) :: t
    else (k, v) :: set key value t

/-- The table in which each key of a list has the last value given to it. -/
def ofList (entries : List (String × String)) : Table :=
  entries.foldl (fun t e => set e.1 e.2 t) []

end Table

/-- The options of the generator. -/
structure Options where
  paths : Layout := .importPath
  /-- What every import path outside the standard library is put under. -/
  importPrefix : String := ""
  /-- Go import paths that replace the declared ones, by the name of the `.proto` file. -/
  importOverrides : Table := []
  serverAddr : String := "localhost:8080"
  responseFormat : String := "json"
  timeoutSecs : Nat := 10
  authTokenType : String := "Bearer"
  /-- The help text of every flag for a field. -/
  helpText : String := "get-comment-from-proto"
  deriving DecidableEq, Repr, Inhabited

namespace Options

/-- What the connection flags of a service hold when they are not given. -/
def connectionDefaults (o : Options) : Command.ConnectionDefaults :=
  ⟨o.serverAddr, o.responseFormat, o.timeoutSecs, o.authTokenType⟩

/-- The Go import path of a file: the one given in the options, or the declared one. -/
def goImportPath (o : Options) (f : File) : Option String :=
  match o.importOverrides.lookup f.name with
  | some path => some path
  | none => f.goImportPath

/-- A text without the slashes at its end. -/
def dropSlashes (s : String) : String :=
  String.ofList (s.toList.reverse.dropWhile (· == '/')).reverse

/-- An import path under the prefix of the options. -/
def prefixedImport (o : Options) (path : String) : String :=
  if o.importPrefix = "" then path else dropSlashes o.importPrefix ++ "/" ++ path

/-- The path of the file that is generated for `f`. -/
def outputName (o : Options) (f : File) : String :=
  let stem := dropTail ".proto" f.name
  match o.paths, o.goImportPath f with
  | .importPath, some path => path ++ "/" ++ lastPiece '/' stem ++ ".cobra.pb.go"
  | _, _ => stem ++ ".cobra.pb.go"

end Options

end ServiceCli
