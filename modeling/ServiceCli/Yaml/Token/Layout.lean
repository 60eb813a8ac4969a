import ServiceCli.Yaml.Glyph
import ServiceCli.Yaml.Token

/-!
# Indentation and keys

While a text is cut into tokens, a `Layout` keeps track of how deep indented lists and records are
and of the places at which a key may have started. A key is known as one only when the colon after
it is met; then the token for it is put where it started (`Layout.insertBack`). A key stands on one
line and is at most 1024 bytes long.
-/

namespace ServiceCli.Yaml

/-- A place at which a key may have started. -/
structure KeyStart where
  line : Nat
  column : Nat
  /-- The number of bytes before it on its line. -/
  offset : Nat
  /-- The number of tokens before it. -/
  before : Nat
  /-- Whether there has to be a key, because of the indentation. -/
  required : Bool
  deriving DecidableEq, Repr

/-- How many bytes a key may take. -/
def maxKeyLength : Nat := 1024

/-- Whether a colon at the glyph `g` is too far away to end the key. -/
def KeyStart.isStale (k : KeyStart) (g : Glyph) : Bool :=
  k.line < g.line || k.offset + maxKeyLength < g.offset

/-- What is known about a text of which a part has been cut into tokens. -/
structure Layout where
  /-- The tokens, the latest first. -/
  tokens : List Token := []
  /-- How many tokens there are. -/
  count : Nat := 0
  /-- The columns of the lists and records that are open by indentation, the innermost first. -/
  indents : List Nat := []
  /-- A place for a key outside all brackets, if there is one. -/
  outerKey : Option KeyStart := none
  /-- A place for a key inside each open bracket, the innermost first. -/
  flowKeys : List (Option KeyStart) := []
  /-- Whether a key may start here. -/
  keyAllowed : Bool := true
  deriving Repr

namespace Layout

/-- Whether a bracket is open. -/
def inFlow (l : Layout) : Bool :=
  !l.flowKeys.isEmpty

/-- The column of the innermost indented list or record, or minus one. -/
def indent (l : Layout) : Int :=
  match l.indents with
  | column :: _ => column
  | [] => -1

/-- Adds a token. -/
def push (l : Layout) (t : Token) : Layout :=
  { l with tokens := t :: l.tokens, count := l.count + 1 }

/-- Adds a token before the latest `n`. -/
def insertBack (l : Layout) (n : Nat) (t : Token) : Layout :=
  { l with tokens := l.tokens.take n ++ t :: l.tokens.drop n, count := l.count + 1 }

/-- The place at which a key of the innermost bracket may have started. -/
def keyStart (l : Layout) : Option KeyStart :=
  match l.flowKeys with
  | k :: _ => k
  | [] => l.outerKey

/-- Sets the place at which a key of the innermost bracket may have started. -/
def setKeyStart (l : Layout) (k : Option KeyStart) : Layout :=
  match l.flowKeys with
  | _ :: ks => { l with flowKeys := k :: ks }
  | [] => { l with outerKey := k }

/-- Allows or forbids a key to start here. -/
def allowKey (l : Layout) (allowed : Bool) : Layout :=
  { l with keyAllowed := allowed }

/-- Gives up the place for a key, unless there has to be one. -/
def dropKey (l : Layout) : Option Layout :=
  if l.keyStart.any (·.required) then none else some (l.setKeyStart none)

/-- Notes that a key may start at the glyph `g`. -/
def markKey (l : Layout) (g : Glyph) : Option Layout :=
  if l.keyAllowed then do
    let l' ← l.dropKey
    return l'.setKeyStart (some {
      line := g.line
      column := g.column
      offset := g.offset
      before := l.count
      required := !l.inFlow && l.indent == g.column })
  else some l

/-- Gives up the places for keys that can no longer end at the glyph `g`, unless there has to be
a key at one of them. -/
def dropStale (l : Layout) (g : Glyph) : Option Layout :=
  let stale (k : Option KeyStart) : Bool := k.any (·.isStale g)
  let failed (k : Option KeyStart) : Bool := k.any fun k => k.isStale g && k.required
  let fresh (k : Option KeyStart) : Option KeyStart := if stale k then none else k
  if failed l.outerKey || l.flowKeys.any failed then none
  else some { l with outerKey := fresh l.outerKey, flowKeys := l.flowKeys.map fresh }

/-- Ends the indented lists and records that are deeper than a column. -/
def close (l : Layout) (column : Int) : Layout :=
  if l.inFlow then l
  else
    let ended := l.indents.takeWhile fun (i : Nat) => decide (column < i)
    { l with
      tokens := ended.map (fun _ => Token.blockEnd) ++ l.tokens
      count := l.count + ended.length
      indents := l.indents.drop ended.length }

/-- Starts an indented list or record before the latest `n` tokens, if the column is deeper than
that of the innermost one. -/
def openAt (l : Layout) (column n : Nat) (t : Token) : Layout :=
  if l.inFlow || decide ((column : Int) ≤ l.indent) then l
  else { l.insertBack n t with indents := column :: l.indents }

/-- Opens a bracket. -/
def openFlow (l : Layout) (t : Token) : Layout :=
  { l.push t with flowKeys := none :: l.flowKeys, keyAllowed := true }

/-- Closes a bracket. -/
def closeFlow (l : Layout) (t : Token) : Option Layout :=
  l.dropKey.map fun l => { l.push t with flowKeys := l.flowKeys.drop 1, keyAllowed := false }

/-- Adds the token of an item of an indented list. -/
def addItem (l : Layout) (g : Glyph) : Option Layout :=
  if !l.inFlow && !l.keyAllowed then none
  else (l.openAt g.column 0 .blockListStart).dropKey.map fun l => (l.allowKey true).push .item

/-- Adds the token of a key that is marked by a question mark. -/
def addKey (l : Layout) (g : Glyph) : Option Layout :=
  if !l.inFlow && !l.keyAllowed then none
  else (l.openAt g.column 0 .blockRecordStart).dropKey.map fun l =>
    (l.allowKey (!l.inFlow)).push .key

/-- Adds the token of a value. If a key may have started before it, its token is put there. -/
def addValue (l : Layout) (g : Glyph) : Option Layout :=
  match l.keyStart with
  | some k =>
    let back := l.count - k.before
    some (((((l.insertBack back .key).openAt k.column (back + 1) .blockRecordStart).setKeyStart
      none).allowKey false).push .value)
  | none =>
    if !l.inFlow && !l.keyAllowed then none
    else some (((l.openAt g.column 0 .blockRecordStart).allowKey (!l.inFlow)).push .value)

/-- Ends everything that is open by indentation before a mark between documents, or at the end of
the text. -/
def endDocument (l : Layout) : Option Layout :=
  (l.close (-1)).dropKey.map fun l => l.allowKey false

end Layout

end ServiceCli.Yaml
