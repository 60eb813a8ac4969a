/-!
# Tokens of YAML

Tokens are the marks and scalars of a YAML text in order. Where indentation alone shows that a
list or a record starts or ends, there is a token for it too, so that the structure of a document
can be read from its tokens.
-/

namespace ServiceCli.Yaml

/-- A tag. Its bytes may be written as escapes, so they need not make up a text. -/
abbrev Tag := List UInt8

namespace Tag

/-- The tag that is written as a text. -/
def ofText (s : String) : Tag :=
  s.toUTF8.data.toList

/-- The name in a tag of the document's own: what follows the exclamation mark in front, if it is
a text. -/
def name? : Tag → Option String
  | mark :: bytes => if mark = 0x21 then String.fromUTF8? ⟨bytes.toArray⟩ else none
  | [] => none

end Tag

/-- How a scalar is written. -/
inductive Style where
  | plain | quoted | literal | folded
  deriving DecidableEq, Repr, Inhabited

/-- A token. -/
inductive Token where
  /-- The version of YAML that a document is written in. -/
  | version (major minor : Nat)
  /-- What a handle in a tag stands for. -/
  | handle (name : String) (meaning : Tag)
  | documentStart
  | documentEnd
  | blockListStart
  | blockRecordStart
  /-- The end of an indented list or record. -/
  | blockEnd
  | flowListStart
  | flowListEnd
  | flowRecordStart
  | flowRecordEnd
  /-- The mark before an item of an indented list. -/
  | item
  | comma
  | key
  | value
  | aliasOf (name : String)
  | anchor (name : String)
  /-- A tag, cut into its handle and what follows it. -/
  | tag (handle : String) (suffix : Tag)
  | scalar (style : Style) (text : String)
  /-- The end of the text. -/
  | finish
  deriving DecidableEq, Repr, Inhabited

end ServiceCli.Yaml
