import ServiceCli.Yaml.Token

/-!
# Documents

A YAML document is a tree of scalars, lists and records, in which an alias may stand for a node
that an anchor names. A `Document` keeps the nodes with an anchor beside the tree, so a node may
hold an alias for itself.
-/

namespace ServiceCli.Yaml

/-- A node of a document. -/
inductive Node where
  | scalar (tag : Option Tag) (style : Style) (text : String)
  | list (tag : Option Tag) (items : List Node)
  | record (tag : Option Tag) (entries : List (Node × Node))
  /-- The node whose anchor has this number. -/
  | aliasOf (number : Nat)
  deriving Repr, Inhabited

/-- The scalar that stands where nothing is written. -/
def Node.empty : Node :=
  scalar none .plain ""

/-- A document. -/
structure Document where
  root : Node := .empty
  /-- The nodes with an anchor, by their numbers. -/
  anchored : List (Nat × Node) := []
  /-- How much is written in the document: one for each scalar and alias and two for each list
  and record. -/
  size : Nat := 1
  deriving Repr, Inhabited

end ServiceCli.Yaml
