import ServiceCli.Proto.File

/-!
# Schemas

A schema declares files and may import other schemas by their paths. The files that it names
itself are generated when it is given by the user (`Schema.fileNames`). A compiled set of
descriptors holds the files that others depend on as well; of these only the roots are generated,
on which no file of the set depends (`Schema.rootNames`).
-/

namespace ServiceCli

open Proto

/-- The paths of the schemas that a schema imports, and the files that it declares. -/
structure Schema where
  imports : List String := []
  files : List File := []
  deriving DecidableEq, Repr, Inhabited

namespace Schema

/-- The names of the declared files. -/
def fileNames (s : Schema) : List String :=
  s.files.map File.name

/-- Whether some file of the schema depends on the file of that name. -/
def isDependency (s : Schema) (name : String) : Bool :=
  s.files.any fun f => f.dependencies.contains name

/-- The names of the files on which no file of the schema depends. -/
def rootNames (s : Schema) : List String :=
  s.fileNames.filter fun name => !s.isDependency name

end Schema

end ServiceCli
