import ServiceCli.Outline.Json
import ServiceCli.Outline.Yaml.Scalar

/-!
# Outlines in YAML

`yaml` prints an outline with one entry or item a line. What stands in a record is two spaces
deeper than the record, but the items of a list in a record are no deeper than its keys. A list
or record in a list starts on the line of the item's mark.

A key is followed by a colon. One that is longer than 128 bytes or goes over several lines
stands after a question mark, on a line of its own, and the value after a colon on the next one.
-/

namespace ServiceCli.Outline

/-- A text with a line end after it, unless it has one. -/
def endLine (s : String) : String :=
  if s.toList.getLast?.any isLineEnd then s else s ++ "\n"

/-- The start of a line. -/
def pad (column : Nat) : String :=
  String.ofList (spaces column)

/-- Whether a key can stand on the line of its value. -/
def isSimpleKey (key : String) : Bool :=
  key.utf8ByteSize ≤ 128 && !key.toList.any isLineEnd

/-- A key, up to the colon after it. -/
def yamlKey (column : Nat) (key : String) : String :=
  if isSimpleKey key then scalarText (column + 2) key ++ ":"
  else "? " ++ endLine (scalarText (column + 2) key) ++ pad column ++ ":"

mutual

/-- An outline that starts at a column, on a line that has been started. -/
def yamlAt (column : Nat) : Outline → String
  | text s => endLine (scalarText column s)
  | number n => digits n ++ "\n"
  | list [] => "[]\n"
  | list (x :: xs) => "- " ++ yamlAt (column + 2) x ++ yamlItems column xs
  | record [] => "\x7b\x7d\n"
  | record ((k, v) :: es) => yamlKey column k ++ yamlValue column k v ++ yamlEntries column es

/-- The items after the first one. -/
def yamlItems (column : Nat) : List Outline → String
  | [] => ""
  | x :: xs => pad column ++ "- " ++ yamlAt (column + 2) x ++ yamlItems column xs

/-- The entries after the first one. -/
def yamlEntries (column : Nat) : List (String × Outline) → String
  | [] => ""
  | (k, v) :: es =>
    pad column ++ yamlKey column k ++ yamlValue column k v ++ yamlEntries column es

/-- The value of a key of a record that starts at a column. -/
def yamlValue (column : Nat) (key : String) : Outline → String
  | list (x :: xs) =>
    if isSimpleKey key then
      "\n" ++ pad column ++ "- " ++ yamlAt (column + 2) x ++ yamlItems column xs
    else " - " ++ yamlAt (column + 4) x ++ yamlItems (column + 2) xs
  | record ((k, v) :: es) =>
    (if isSimpleKey key then "\n" ++ pad (column + 2) else " ")
      ++ yamlKey (column + 2) k ++ yamlValue (column + 2) k v ++ yamlEntries (column + 2) es
  | text s => " " ++ endLine (scalarText (column + 2) s)
  | number n => " " ++ digits n ++ "\n"
  | list [] => " []\n"
  | record [] => " \x7b\x7d\n"

end

/-- An outline in YAML. -/
def yaml (o : Outline) : String :=
  yamlAt 0 o

end ServiceCli.Outline
