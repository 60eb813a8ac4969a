import ServiceCli.Json.Token

/-!
# JSON values

`Json.ofText?` reads a text that holds one JSON value and nothing else. A value is built from its
tokens one at a time (`Builder.step`), on a stack of the lists and records that are still open;
so there is no limit on how deep values are nested. Records keep their entries in order, with
repeated keys.
-/

namespace ServiceCli

/-- A JSON value. -/
inductive Json where
  | null
  | bool (b : Bool)
  /-- A number, as it is written. -/
  | number (numeral : String)
  /-- A text, unless it holds half a pair. -/
  | text (s : Option String)
  | list (items : List Json)
  | record (entries : List (Option String × Json))
  deriving Repr, Inhabited

namespace Json

/-- A list or record that is still open, with what it holds so far, the latest first. -/
inductive Frame where
  | list (items : List Json)
  | record (entries : List (Option String × Json))
  /-- A record and a key in it that has no value yet. -/
  | entry (entries : List (Option String × Json)) (key : Option String)
  deriving Repr

/-- What may come next. -/
inductive Awaited where
  | value
  /-- A value, or the end of the list that was just opened. -/
  | firstItem
  | key
  /-- A key, or the end of the record that was just opened. -/
  | firstKey
  | colon
  /-- A comma, or the end of the list or record. -/
  | more
  /-- The end of the text, after this value. -/
  | finished (v : Json)
  deriving Repr

/-- A value that is being built. -/
structure Builder where
  awaited : Awaited := .value
  /-- The innermost open list or record comes first. -/
  stack : List Frame := []
  deriving Repr

namespace Builder

/-- The builder after a whole value. -/
def put (v : Json) : List Frame → Option Builder
  | [] => some ⟨.finished v, []⟩
  | .list items :: fs => some ⟨.more, .list (v :: items) :: fs⟩
  | .entry entries key :: fs => some ⟨.more, .record ((key, v) :: entries) :: fs⟩
  | .record _ :: _ => none

/-- The builder after the start of a value. -/
def open? (fs : List Frame) : Token → Option Builder
  | .null => put .null fs
  | .bool b => put (.bool b) fs
  | .number n => put (.number n) fs
  | .text s => put (.text s) fs
  | .listStart => some ⟨.firstItem, .list [] :: fs⟩
  | .recordStart => some ⟨.firstKey, .record [] :: fs⟩
  | _ => none

/-- The builder after a key. -/
def openKey? : List Frame → Token → Option Builder
  | .record entries :: fs, .text key => some ⟨.colon, .entry entries key :: fs⟩
  | _, _ => none

/-- The builder after the end of a list or record. -/
def close? : List Frame → Token → Option Builder
  | .list items :: fs, .listEnd => put (.list items.reverse) fs
  | .record entries :: fs, .recordEnd => put (.record entries.reverse) fs
  | _, _ => none

/-- The builder after a comma, or after the end of a list or record. -/
def continue? : List Frame → Token → Option Builder
  | .list items :: fs, .comma => some ⟨.value, .list items :: fs⟩
  | .record entries :: fs, .comma => some ⟨.key, .record entries :: fs⟩
  | fs, t => close? fs t

/-- The builder after one more token. -/
def step (b : Builder) (t : Token) : Option Builder :=
  match b.awaited with
  | .value => open? b.stack t
  | .firstItem => (close? b.stack t).or (open? b.stack t)
  | .key => openKey? b.stack t
  | .firstKey => (close? b.stack t).or (openKey? b.stack t)
  | .colon => if t = .colon then some { b with awaited := .value } else none
  | .more => continue? b.stack t
  | .finished _ => none

/-- The value that has been built. -/
def finish (b : Builder) : Option Json :=
  match b.awaited with
  | .finished v => some v
  | _ => none

end Builder

/-- The value that a text holds. -/
def ofText? (s : String) : Option Json :=
  (tokens s.toList).bind fun ts => (ts.foldlM Builder.step {}).bind Builder.finish

end Json

end ServiceCli
