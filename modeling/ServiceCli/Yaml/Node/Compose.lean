import ServiceCli.Yaml.Node

/-!
# From tokens to a document

`Document.ofTokens?` builds a document from its tokens. A text holds one document at most; before
it there may be directives, and after it nothing but marks of its end.

An anchor gets as its number the number of different anchor names before it. A name that is used
again gets a new number, and this number may be given again to the next name; an alias then
stands for the node that got it last.
-/

namespace ServiceCli.Yaml

/-- Where the building of a document has come to. -/
structure Composer where
  tokens : List Token
  /-- What the handles in tags stand for. -/
  handles : List (String × Tag) := []
  /-- The names of anchors and their numbers. -/
  names : List (String × Nat) := []
  /-- For each number the place, among the nodes with an anchor, of the one that got it, the latest
  first. -/
  owners : List (Nat × Nat) := []
  /-- The nodes with an anchor, by their places. -/
  nodes : List (Nat × Node) := []
  size : Nat := 0
  deriving Repr

/-- A step in the building of a document. -/
abbrev Composing := StateT Composer Option

namespace Composing

/-- The next token. -/
def peek : Composing Token := do
  return (← get).tokens.headD .finish

/-- Goes on to the token after the next one. -/
def advance : Composing Unit :=
  modify fun c => { c with tokens := c.tokens.drop 1 }

/-- Counts what is written. -/
def count (n : Nat) : Composing Unit :=
  modify fun c => { c with size := c.size + n }

/-- Goes on if the next token is `t`. -/
def expect (t : Token) : Composing Unit := do
  if (← peek) = t then advance else failure

/-- The scalar that stands where nothing is written. -/
def emptyNode : Composing Node := do
  count 1
  return .empty

/-- The whole of a tag. -/
def wholeTag (handle : String) (suffix : Tag) : Composing Tag := do
  if handle = "" then return suffix
  else match (← get).handles.lookup handle with
    | some meaning => return meaning ++ suffix
    | none => failure

/-- The anchor and the tag in front of a node, in either order, each at most once. -/
def properties : Composing (Option String × Option Tag) := do
  match ← peek with
  | .anchor name =>
    advance
    match ← peek with
    | .tag handle suffix =>
      advance
      return (some name, some (← wholeTag handle suffix))
    | _ => return (some name, none)
  | .tag handle suffix =>
    advance
    match ← peek with
    | .anchor name =>
      advance
      return (some name, some (← wholeTag handle suffix))
    | _ => return (none, some (← wholeTag handle suffix))
  | _ => return (none, none)

/-- Gives a name its number, and takes a place for the node that has it. -/
def declare (name : String) : Composing Nat := do
  let c ← get
  let number := c.names.length
  let place := c.owners.length
  set { c with
    names := (name, number) :: c.names.filter (·.1 != name)
    owners := (number, place) :: c.owners }
  return place

/-- The number of an anchor. -/
def numberOf (name : String) : Composing Nat := do
  StateT.lift ((← get).names.lookup name)

/-- Keeps the node at a place. -/
def keep (place : Option Nat) (n : Node) : Composing Node := do
  match place with
  | some p => modify fun c => { c with nodes := (p, n) :: c.nodes }
  | none => pure ()
  return n

/-- Whether nothing is written for an item of an indented list. -/
def endsItem (indentless : Bool) : Token → Bool
  | .item | .blockEnd => true
  | .key | .value => indentless
  | _ => false

/-- Whether nothing is written for a key or a value of an indented record. -/
def endsEntry : Token → Bool
  | .key | .value | .blockEnd => true
  | _ => false

mutual

/-- A node. `inBlock` tells whether it may be written by indentation, and `indentless` whether it
may be a list that is no deeper than the record around it. -/
def node : Nat → Bool → Bool → Composing Node
  | 0, _, _ => failure
  | fuel + 1, inBlock, indentless => do
    match ← peek with
    | .aliasOf name =>
      advance
      count 1
      return .aliasOf (← numberOf name)
    | _ =>
      let (anchor, tag) ← properties
      let place ← match anchor with
        | some name => some <$> declare name
        | none => pure none
      keep place (← content fuel inBlock indentless (anchor.isSome || tag.isSome) tag)

/-- What follows the anchor and the tag of a node. Nothing need follow them. -/
def content : Nat → Bool → Bool → Bool → Option Tag → Composing Node
  | 0, _, _, _, _ => failure
  | fuel + 1, inBlock, indentless, mayBeEmpty, tag => do
    match ← peek with
    | .scalar style text =>
      advance
      count 1
      return .scalar tag style text
    | .flowListStart =>
      advance
      count 2
      return .list tag (← flowItems fuel true)
    | .flowRecordStart =>
      advance
      count 2
      return .record tag (← flowEntries fuel true)
    | t =>
      if indentless && t == .item then
        count 2
        return .list tag (← indentlessItems fuel)
      else if inBlock && t == .blockListStart then
        advance
        count 2
        return .list tag (← blockItems fuel)
      else if inBlock && t == .blockRecordStart then
        advance
        count 2
        return .record tag (← blockEntries fuel)
      else if mayBeEmpty then
        count 1
        return .scalar tag .plain ""
      else failure

/-- The items of an indented list. -/
def blockItems : Nat → Composing (List Node)
  | 0 => failure
  | fuel + 1 => do
    match ← peek with
    | .item =>
      advance
      let n ← if endsItem false (← peek) then emptyNode else node fuel true false
      return n :: (← blockItems fuel)
    | .blockEnd =>
      advance
      return []
    | _ => failure

/-- The items of a list that is no deeper than the record around it. -/
def indentlessItems : Nat → Composing (List Node)
  | 0 => failure
  | fuel + 1 => do
    match ← peek with
    | .item =>
      advance
      let n ← if endsItem true (← peek) then emptyNode else node fuel true false
      return n :: (← indentlessItems fuel)
    | _ => return []

/-- The entries of an indented record. -/
def blockEntries : Nat → Composing (List (Node × Node))
  | 0 => failure
  | fuel + 1 => do
    match ← peek with
    | .key =>
      advance
      let k ← if endsEntry (← peek) then emptyNode else node fuel true true
      let v ← blockValue fuel
      return (k, v) :: (← blockEntries fuel)
    | .blockEnd =>
      advance
      return []
    | _ => failure

/-- The value of an entry of an indented record. -/
def blockValue : Nat → Composing Node
  | 0 => failure
  | fuel + 1 => do
    match ← peek with
    | .value =>
      advance
      if endsEntry (← peek) then emptyNode else node fuel true true
    | _ => emptyNode

/-- The items of a list in brackets. -/
def flowItems : Nat → Bool → Composing (List Node)
  | 0, _ => failure
  | fuel + 1, isFirst => do
    if (← peek) = .flowListEnd then
      advance
      return []
    else
      if !isFirst then expect .comma
      match ← peek with
      | .flowListEnd =>
        advance
        return []
      | .key =>
        advance
        count 2
        let e ← flowPair fuel
        return .record none [e] :: (← flowItems fuel false)
      | _ =>
        let n ← node fuel false false
        return n :: (← flowItems fuel false)

/-- The one entry of a record that is written in a list without brackets of its own. Where its
key is missing, the token after the key's mark is passed over. -/
def flowPair : Nat → Composing (Node × Node)
  | 0 => failure
  | fuel + 1 => do
    let t ← peek
    let k ← if t = .value ∨ t = .comma ∨ t = .flowListEnd then do advance; emptyNode
      else node fuel false false
    if (← peek) = .value then
      advance
      let t ← peek
      return (k, ← if t = .comma ∨ t = .flowListEnd then emptyNode else node fuel false false)
    else return (k, ← emptyNode)

/-- The entries of a record in brackets. -/
def flowEntries : Nat → Bool → Composing (List (Node × Node))
  | 0, _ => failure
  | fuel + 1, isFirst => do
    if (← peek) = .flowRecordEnd then
      advance
      return []
    else
      if !isFirst then expect .comma
      match ← peek with
      | .flowRecordEnd =>
        advance
        return []
      | .key =>
        advance
        let t ← peek
        let k ← if t = .value ∨ t = .comma ∨ t = .flowRecordEnd then emptyNode
          else node fuel false false
        let v ← flowValue fuel
        return (k, v) :: (← flowEntries fuel false)
      | _ =>
        let k ← node fuel false false
        let v ← emptyNode
        return (k, v) :: (← flowEntries fuel false)

/-- The value of an entry of a record in brackets. -/
def flowValue : Nat → Composing Node
  | 0 => failure
  | fuel + 1 => do
    if (← peek) = .value then
      advance
      let t ← peek
      if t = .comma ∨ t = .flowRecordEnd then emptyNode else node fuel false false
    else emptyNode

end

/-- The directives before a document. The version is given at most once and has to be 1.1 or 1.2,
and a handle gets a meaning at most once. -/
def directives (versioned : Bool) : List Token → Option (List (String × Tag) × List Token)
  | .version major minor :: ts =>
    if versioned || major != 1 || (minor != 1 && minor != 2) then none else directives true ts
  | .handle name meaning :: ts =>
    (directives versioned ts).bind fun (hs, rest) =>
      if (hs.map Prod.fst).contains name then none else some ((name, meaning) :: hs, rest)
  | ts => some ([], ts)

/-- What the handles stand for when a document does not say so. -/
def usualHandles : List (String × Tag) :=
  [("!", .ofText "!"), ("!!", .ofText "tag:yaml.org,2002:")]

/-- The document that starts here, and the tokens after it. -/
def document (handles : List (String × Tag)) (ts : List Token) : Option (Document × List Token) :=
  let start : Composer := { tokens := ts, handles := handles ++ usualHandles }
  let compose : Composing Node := do
    match ← peek with
    | .version .. | .handle .. | .documentStart | .documentEnd | .finish => emptyNode
    | _ => node (3 * ts.length + 3) true false
  (compose.run start).map fun (root, c) =>
    (⟨root, c.owners.filterMap fun (number, place) => (c.nodes.lookup place).map (number, ·),
      c.size⟩, c.tokens)

/-- Whether nothing but marks of the end of a document is left. -/
def isFinished (ts : List Token) : Bool :=
  ts.dropWhile (· == .documentEnd) == [.finish]

end Composing

open Composing in
/-- The document that tokens make up. A text without one holds the empty document. -/
def Document.ofTokens? (ts : List Token) : Option Document := do
  if ts = [.finish] then return {}
  else
    let (handles, rest) ← directives false ts
    let body ← match rest with
      | .documentStart :: body => some body
      | _ => if rest.length = ts.length && ts.head? != some .documentEnd then some rest else none
    let (d, rest) ← document handles body
    if isFinished rest then return d else none

end ServiceCli.Yaml
