import ServiceCli.Text.Pieces

/-!
# Qualified type names

A reference to a type is written with a leading dot and its package (`.pkg.Outer.Inner`) or
without both. `QualifiedName.ofReference` reads it as a package and a type name; `relativePath`
gives the path of the type below a given package, or nothing when it belongs to another one.
-/

namespace ServiceCli

open Text

/-- A type name apart from its package. -/
structure QualifiedName where
  /-- The package, with dots between its parts; empty when there is none. -/
  package : String
  typeName : String
  deriving DecidableEq, Repr

namespace QualifiedName

/-- The package and the type name in a reference: everything before the last dot is the
package. -/
def ofReference (reference : String) : QualifiedName :=
  let bare := String.ofList (reference.toList.dropWhile (· == '.'))
  match cutLast '.' bare with
  | some (package, typeName) => ⟨package, typeName⟩
  | none => ⟨"", bare⟩

/-- The name under which Go code imports `package`. -/
def aliasOf (package : String) : String :=
  String.ofList (package.toList.map fun c => if c = '.' then '_' else c) ++ "_pb"

/-- The name under which Go code imports the package of the type, if it has one. -/
def importAlias (q : QualifiedName) : Option String :=
  if q.package = "" then none else some (aliasOf q.package)

end QualifiedName

/-- The part of a reference below `package`, before it is cut into names. A reference with a
leading dot has to start with the package. -/
def relativePart (package reference : String) : Option String :=
  match afterLead "." reference with
  | none => some reference
  | some qualified =>
    if package = "" then some qualified
    else (afterLead package qualified).bind (afterLead ".")

/-- The names along the path of a reference below `package`. There is no path for a reference
into another package, and none for an empty one. -/
def relativePath (package reference : String) : Option (List String) :=
  (relativePart package reference).bind fun rest =>
    if rest = "" then none else some (pieces '.' rest)

end ServiceCli
