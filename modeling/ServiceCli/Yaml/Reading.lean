import ServiceCli.Reading.Format
import ServiceCli.Yaml.Node.Compose
import ServiceCli.Yaml.Number
import ServiceCli.Yaml.Token.Scan

/-!
# YAML as a data format

How texts, numbers, lists and records are read from the nodes of a document. Every scalar is a
text as it is written. Nothing, truth values and numbers are plain scalars, or literal ones with
the tag for them. An empty plain scalar is an empty list or an empty record. A case may also be
written as a tag of the document's own before an empty scalar.

Lists and records are nested to a depth of 128 at most where they are read. Each alias that is
followed is a step, and there are a hundred steps for all that is written in the document, so a
document with many aliases for one another is refused.
-/

namespace ServiceCli.Yaml

/-- The tag of a kind of scalars. -/
def coreTag (kind : String) : Tag :=
  .ofText ("tag:yaml.org,2002:" ++ kind)

/-- Whether a scalar may be of a kind other than text. -/
def mayBe (kind : String) (tag : Option Tag) : Style → Bool
  | .plain => true
  | .literal => tag == some (coreTag kind)
  | _ => false

/-- Whether a scalar stands for an empty list or record. -/
def isEmptyScalar : Node → Bool
  | .scalar _ .plain text => text == ""
  | _ => false

/-- The tag of a node. -/
def Node.tag? : Node → Option Tag
  | scalar tag _ _ => tag
  | list tag _ => tag
  | record tag _ => tag
  | aliasOf _ => none

namespace Document

/-- The node that an alias stands for. -/
def follow (d : Document) : Node → Reading Node
  | .aliasOf number => fun steps =>
    match steps, d.anchored.lookup number with
    | left + 1, some n => some (n, left)
    | _, _ => none
  | n => pure n

/-- The text of a scalar. -/
def text (d : Document) (n : Node) : Reading String := do
  match ← d.follow n with
  | .scalar _ _ text => return text
  | _ => failure

/-- The value that a scalar of a kind stands for. -/
def value {α : Type} (d : Document) (kind : String) (read : String → Option α) (n : Node) :
    Reading α := do
  match ← d.follow n with
  | .scalar tag style text =>
    if mayBe kind tag style then StateT.lift (read text) else failure
  | _ => failure

/-- Nothing for a plain scalar that is empty or stands for nothing. With the tag for nothing it has
to stand for it, and with another tag it is something. -/
def optional (d : Document) (n : Node) : Reading (Option Node) := do
  let n ← d.follow n
  match n with
  | .scalar none .plain text => return if text = "" || isNull text then none else some n
  | .scalar (some tag) .plain text =>
    if tag = coreTag "null" then
      if isNull text then return none else failure
    else return some n
  | _ => return some n

/-- The name of a case: the name in a tag before an empty scalar, or else the text of a scalar. A
tag without a name says nothing. -/
def case (d : Document) (n : Node) : Reading String := do
  let n ← d.follow n
  match n.tag?.bind Tag.name?, n with
  | some name, .scalar _ .plain text =>
    if text = "" || isNull text then return name else failure
  | none, .scalar _ _ text => return text
  | _, _ => failure

/-- The items of a list. -/
def items (d : Document) (room : Nat) (n : Node) : Reading (List Node) := do
  let n ← d.follow n
  match n with
  | .list _ items => if room = 0 then failure else return items
  | _ => if isEmptyScalar n then return [] else failure

/-- The entries of a record, the keys of which are scalars. -/
def entries (d : Document) (room : Nat) (n : Node) : Reading (List (String × Node)) := do
  let n ← d.follow n
  match n with
  | .record _ es =>
    if room = 0 then failure else es.mapM fun (k, v) => return (← d.text k, v)
  | _ => if isEmptyScalar n then return [] else failure

/-- The nodes of a document as a data format. -/
def format (d : Document) : Format Node where
  text := d.text
  bool := d.value "bool" bool?
  int32 := d.value "int" fun s =>
    (int? s).filter fun i => decide (-2147483648 ≤ i) && decide (i < 2147483648)
  nat64 := d.value "int" fun s => (nat? s).filter (· < UInt64.size)
  case _ := d.case
  optional := d.optional
  list := d.items
  record room names n := do StateT.lift (Format.chosen names (← d.entries room n))
  entries := d.entries
  room := 128

/-- How many aliases may be followed. -/
def steps (d : Document) : Nat :=
  d.size * 100

/-- Reads the root of a document. -/
def read? {α : Type} (d : Document) (decode : Format Node → Nat → Node → Reading α) : Option α :=
  (decode d.format d.format.room d.root).run' d.steps

end Document

/-- Reads a text. -/
def read? {α : Type} (decode : Format Node → Nat → Node → Reading α) (s : String) : Option α := do
  (← Document.ofTokens? (← tokens? s)).read? decode

end ServiceCli.Yaml
