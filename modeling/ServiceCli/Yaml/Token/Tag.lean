import ServiceCli.Text.Decimal
import ServiceCli.Yaml.Glyph
import ServiceCli.Yaml.Token

/-!
# Tags, anchors and directives

The tokens that start with an exclamation mark, an ampersand, an asterisk or, at the start of a
line, with a percent sign. Each reader takes what follows that sign and gives the token and what
follows it.
-/

namespace ServiceCli.Yaml

open Text

/-- Whether a name of an anchor may end before this character. -/
def endsAnchor (c : Char) : Bool :=
  isBlank c || isBreak c || c == '?' || c == ':' || c == ',' || c == ']' || c == '\x7d'
    || c == '%' || c == '@' || c.toNat == 0x60

/-- The name of an anchor, and what follows it. -/
def anchorName? (gs : List Glyph) : Option (String × List Glyph) :=
  let (name, rest) := takeRun isWordChar gs
  if name.isEmpty || rest.head?.any (fun g => !endsAnchor g.char) then none
  else some (String.ofList name, rest)

/-- A character that may stand in a tag as it is. -/
def isTagChar (bracketed : Bool) (c : Char) : Bool :=
  isWordChar c || ";/?:@&=+$.!~*'()".toList.contains c
    || (bracketed && (c == ',' || c == '[' || c == ']'))

/-- How many bytes the character has that starts with a byte. -/
def characterLength? (byte : Nat) : Option Nat :=
  if byte < 0x80 then some 1
  else if byte / 0x20 = 0x06 then some 2
  else if byte / 0x10 = 0x0E then some 3
  else if byte / 0x08 = 0x1E then some 4
  else none

/-- How many bytes of a character are missing after a byte, if `missing` were so before it. -/
def missingAfter? (missing byte : Nat) : Option Nat :=
  if missing = 0 then (characterLength? byte).map (· - 1)
  else if byte / 0x40 = 0x02 then some (missing - 1)
  else none

/-- The bytes of a tag, and what follows them. A percent sign and two digits stand for any byte,
but bytes above ASCII come in groups as long as the first byte of the group tells. -/
def tagBytesFrom (bracketed : Bool) (missing : Nat) : List Glyph → Option (Tag × List Glyph)
  | [] => if missing = 0 then some ([], []) else none
  | g :: rest =>
    if g.char = '%' then
      match rest with
      | high :: low :: rest => do
        let byte := (← hexDigit high.char) * 16 + (← hexDigit low.char)
        let (bytes, rest) ← tagBytesFrom bracketed (← missingAfter? missing byte) rest
        return (UInt8.ofNat byte :: bytes, rest)
      | _ => none
    else if missing ≠ 0 then none
    else if isTagChar bracketed g.char then do
      let (bytes, rest) ← tagBytesFrom bracketed 0 rest
      return (UInt8.ofNat g.char.toNat :: bytes, rest)
    else some ([], g :: rest)

/-- The bytes of a tag, and what follows them. -/
def tagBytes (bracketed : Bool) (gs : List Glyph) : Option (Tag × List Glyph) :=
  tagBytesFrom bracketed 0 gs

/-- The part of a tag that counts: it ends before the first zero. -/
def Tag.upToZero (t : Tag) : Tag :=
  t.takeWhile (· != 0)

/-- What stands between an exclamation mark and the next one, if a word and a mark follow. -/
def namedHandle? (gs : List Glyph) : Option (String × List Glyph) :=
  let (name, rest) := takeRun isWordChar gs
  if startsWith '!' rest then some ("!" ++ String.ofList name ++ "!", rest.drop 1) else none

/-- The handle and the suffix of a tag, and what follows it. A mere exclamation mark is a tag of its
own. -/
def tagParts? (gs : List Glyph) : Option ((String × Tag) × List Glyph) :=
  if startsWith '<' gs then
    match tagBytes true (gs.drop 1) with
    | some (t, rest) =>
      if !t.isEmpty && startsWith '>' rest then some (("", t.upToZero), rest.drop 1) else none
    | none => none
  else
    match namedHandle? gs with
    | some (handle, rest) =>
      match tagBytes false rest with
      | some (t, rest) => if t.isEmpty then none else some ((handle, t.upToZero), rest)
      | none => none
    | none =>
      (tagBytes false gs).map fun (t, rest) =>
        (if t.upToZero.isEmpty then ("", .ofText "!") else ("!", t.upToZero), rest)

/-- The token of a tag, and what follows it, which has to be a gap, or a comma inside
brackets. -/
def tagToken? (inFlow : Bool) (gs : List Glyph) : Option (Token × List Glyph) :=
  match tagParts? gs with
  | some ((handle, suffix), rest) =>
    if atGap rest || (inFlow && startsWith ',' rest) then some (.tag handle suffix, rest) else none
  | none => none

/-- A number of nine digits at most, and what follows it. -/
def shortNumber? (gs : List Glyph) : Option (Nat × List Glyph) :=
  let (ds, rest) := takeRun Char.isDigit gs
  if 9 < ds.length then none else (decimal? ds).map fun n => (n, rest)

/-- The token of a version, and what follows it. -/
def versionToken? (gs : List Glyph) : Option (Token × List Glyph) := do
  let (major, gs) ← shortNumber? (skipBlanks gs)
  if startsWith '.' gs then
    let (minor, gs) ← shortNumber? (gs.drop 1)
    return (.version major minor, gs)
  else none

/-- The token that gives a handle its meaning, and what follows it. -/
def handleToken? (gs : List Glyph) : Option (Token × List Glyph) := do
  let gs := skipBlanks gs
  if !startsWith '!' gs then none
  else
    let (name, gs) ← match namedHandle? (gs.drop 1) with
      | some found => some found
      | none => if atGap (gs.drop 1) then some ("!", gs.drop 1) else none
    if !(gs.head?.any Glyph.isBlank) then none
    else
      let (meaning, gs) ← tagBytes true (skipBlanks gs)
      if meaning.isEmpty || !atGap gs then none else return (.handle name meaning.upToZero, gs)

/-- The token of a directive, and the lines below it. -/
def directiveToken? (gs : List Glyph) : Option (Token × List Glyph) := do
  let (name, gs) := takeRun isWordChar gs
  if !atGap gs then none
  else
    let (token, gs) ←
      if name = "YAML".toList then versionToken? gs
      else if name = "TAG".toList then handleToken? gs
      else none
    return (token, ← finishLine gs)

end ServiceCli.Yaml
