import ServiceCli.GoFile
import ServiceCli.Options.Basic

/-!
# What generated files import

Every generated file imports the packages of `baseImports`, and one with a stream imports `io`
as well. A request type of another package is imported from the Go path of that package, which
an `ImportMap` holds for every package of the files at hand.
-/

namespace ServiceCli

open Proto

/-- The packages that every generated file imports. -/
def baseImports : List GoImport := [
  ⟨"tls", "crypto/tls"⟩,
  ⟨"x509", "crypto/x509"⟩,
  ⟨"fmt", "fmt"⟩,
  ⟨"ioutil", "io/ioutil"⟩,
  ⟨"log", "log"⟩,
  ⟨"net", "net"⟩,
  ⟨"os", "os"⟩,
  ⟨"filepath", "path/filepath"⟩,
  ⟨"time", "time"⟩,
  ⟨"proto", "github.com/golang/protobuf/proto"⟩,
  ⟨"cobra", "github.com/spf13/cobra"⟩,
  ⟨"pflag", "github.com/spf13/pflag"⟩,
  ⟨"iocodec", "github.com/tetratelabs/protoc-gen-cobra/iocodec"⟩,
  ⟨"context", "golang.org/x/net/context"⟩,
  ⟨"oauth2", "golang.org/x/oauth2"⟩,
  ⟨"grpc", "google.golang.org/grpc"⟩,
  ⟨"credentials", "google.golang.org/grpc/credentials"⟩,
  ⟨"oauth", "google.golang.org/grpc/credentials/oauth"⟩]

/-- The package that a file with a stream imports as well. -/
def streamImport : GoImport := ⟨"io", "io"⟩

/-- An import with its path put under the prefix of the options, unless it is one of the
standard library. -/
def GoImport.withOptions (o : Options) (i : GoImport) : GoImport :=
  if i.isStandard then i else { i with path := o.prefixedImport i.path }

/-- The imports of a file, given whether it has a stream and what its requests need. -/
def fileImports (o : Options) (streaming : Bool) (needed : List GoImport) : List GoImport :=
  (baseImports ++ (if streaming then [streamImport] else []) ++ GoImport.ordered needed).map
    (GoImport.withOptions o)

/-- The Go import paths of packages. -/
structure ImportMap where
  entries : List (String × String) := []
  deriving DecidableEq, Repr, Inhabited

namespace ImportMap

/-- The import paths of the packages of `files`, with the first file of a package first. -/
def ofFiles (files : List File) (o : Options) : ImportMap :=
  ⟨files.filterMap fun f => (o.goImportPath f).map fun path => (f.package, path)⟩

/-- The import path of a package: that of its first file that has one. -/
def get? (m : ImportMap) (package : String) : Option String :=
  m.entries.lookup package

end ImportMap

end ServiceCli
