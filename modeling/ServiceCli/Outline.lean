/-!
# Outlines

An outline is a tree of texts, numbers, lists and records that shows how something is built, for
a person or a program to read. Records keep the order of their entries. It is printed as JSON
(`ServiceCli.Outline.Json`) or as YAML (`ServiceCli.Outline.Yaml`).
-/

namespace ServiceCli

/-- A tree of texts, numbers, lists and records. -/
inductive Outline where
  | text (s : String)
  | number (n : Nat)
  | list (items : List Outline)
  | record (entries : List (String × Outline))
  deriving Repr, Inhabited

end ServiceCli
