import ServiceCli.Proto.Field
import ServiceCli.Text.LetterCase

/-!
# The Go name of a field

A field is known in Go by its JSON name with a capital first letter (`goName`). The JSON name is
the reported one, or else it is made from the name of the field: underscores are dropped and the
character after them takes its capital form (`jsonName`).
-/

namespace ServiceCli

open Text

/-- The characters of a JSON name. The flag tells that an underscore came just before. -/
def jsonNameChars : Bool → List Char → List Char
  | _, [] => []
  | afterUnderscore, c :: cs =>
    if c = '_' then jsonNameChars true cs
    else (if afterUnderscore then capital c else [c]) ++ jsonNameChars false cs

/-- The JSON name made from the name of a field. -/
def jsonName (name : String) : String :=
  String.ofList (jsonNameChars false name.toList)

namespace Proto.Field

/-- The JSON name of the field: the reported one, unless it is empty. -/
def json (f : Field) : String :=
  match f.jsonName with
  | some s => if s = "" then ServiceCli.jsonName f.name else s
  | none => ServiceCli.jsonName f.name

/-- The name of the field in a Go struct. -/
def goName (f : Field) : String :=
  capitalized f.json

end Proto.Field

end ServiceCli
