import ServiceCli.Text.Decimal
import ServiceCli.Yaml.Glyph

/-!
# Block scalars

A block scalar follows its header on the lines below, all indented to one column. A literal one
keeps its line ends, in a folded one those between two lines of text become spaces. The header
may fix the indentation and may say what becomes of the line ends after the last line.
-/

namespace ServiceCli.Yaml

open Text

/-- What becomes of the line ends after the last line. -/
inductive Chomping where
  | strip | clip | keep
  deriving DecidableEq, Repr

/-- What stands on the line that starts a block scalar. -/
structure BlockHeader where
  chomping : Chomping := .clip
  /-- How much deeper the lines are indented than what is around them, if it is given. -/
  increment : Option Nat := none
  deriving DecidableEq, Repr

/-- The chomping that a character stands for. -/
def Chomping.ofChar? : Char → Option Chomping
  | '+' => some .keep
  | '-' => some .strip
  | _ => none

/-- The chomping at the front of a list, if there is one, and what follows it. -/
def takeChomping : List Glyph → Option Chomping × List Glyph
  | [] => (none, [])
  | g :: rest =>
    match Chomping.ofChar? g.char with
    | some c => (some c, rest)
    | none => (none, g :: rest)

/-- The increment at the front of a list, if there is one, and what follows it. It is not
zero. -/
def takeIncrement : List Glyph → Option (Option Nat × List Glyph)
  | [] => some (none, [])
  | g :: rest =>
    match decimalDigit g.char with
    | some 0 => none
    | some n => some (some n, rest)
    | none => some (none, g :: rest)

/-- The header at the front of a list, and the lines below it. Its two parts may come in either
order. -/
def blockHeader? (gs : List Glyph) : Option (BlockHeader × List Glyph) := do
  let (before, gs) := takeChomping gs
  let (increment, gs) ← takeIncrement gs
  let (after, gs) :=
    if before.isNone && increment.isSome then takeChomping gs else (none, gs)
  let gs ← finishLine gs
  return (⟨(before.or after).getD .clip, increment⟩, gs)

/-- The greatest column at which a line of white space ends, the line ends, the latest first, and
what follows them. A tab in place of a space is refused. -/
def leadingBreaks (deepest : Nat) (breaks : List Char) :
    List Glyph → Option (Nat × List Char × List Glyph)
  | [] => some (deepest, breaks, [])
  | g :: rest =>
    if g.char = ' ' then leadingBreaks deepest breaks rest
    else if g.char = '\t' then none
    else if g.isBreak then leadingBreaks (max deepest g.column) (g.char :: breaks) rest
    else some (max deepest g.column, breaks, g :: rest)

/-- A block scalar of which a part has been read. Lists have the latest character first. -/
structure PartialBlock where
  text : List Char := []
  /-- The end of the last line. -/
  lineEnd : Option Char := none
  /-- The ends of the empty lines after it. -/
  breaks : List Char := []
  /-- Whether the last line started with a blank. -/
  blankStart : Bool := false
  /-- Whether a line is being read. -/
  inLine : Bool := false
  deriving Repr

namespace PartialBlock

/-- The scalar when a line starts with `c`. In a folded scalar the line before is joined to it by
a space, unless one of the two starts with a blank. -/
def startLine (b : PartialBlock) (literal : Bool) (c : Char) : PartialBlock :=
  let joined :=
    if !literal && b.lineEnd == some '\n' && !b.blankStart && !isBlank c then
      if b.breaks.isEmpty then ' ' :: b.text else b.text
    else b.lineEnd.toList ++ b.text
  { text := c :: (b.breaks ++ joined), blankStart := isBlank c, inLine := true }

/-- The text of the scalar. -/
def finish (b : PartialBlock) : Chomping → String
  | .strip => String.ofList b.text.reverse
  | .clip => String.ofList (b.lineEnd.toList ++ b.text).reverse
  | .keep => String.ofList (b.breaks ++ (b.lineEnd.toList ++ b.text)).reverse

end PartialBlock

/-- The rest of a block scalar whose lines are indented to the column `indent`. -/
def blockLines (literal : Bool) (indent : Nat) (b : PartialBlock) :
    List Glyph → Option (PartialBlock × List Glyph)
  | [] => some (b, [])
  | g :: rest =>
    if b.inLine then
      if g.isBreak then
        blockLines literal indent { b with lineEnd := some g.char, inLine := false } rest
      else blockLines literal indent { b with text := g.char :: b.text } rest
    else if g.column < indent ∧ g.char = ' ' then blockLines literal indent b rest
    else if g.column < indent ∧ g.char = '\t' then none
    else if g.isBreak then blockLines literal indent { b with breaks := g.char :: b.breaks } rest
    else if g.column = indent then blockLines literal indent (b.startLine literal g.char) rest
    else some (b, g :: rest)

/-- The block scalar after its first mark, and what follows it. `outer` is the column to which
what is around it is indented, or less than zero. -/
def blockScalar (literal : Bool) (outer : Int) (gs : List Glyph) :
    Option (String × List Glyph) := do
  let (header, gs) ← blockHeader? gs
  match header.increment with
  | some n =>
    let (b, rest) ← blockLines literal (outer.toNat + n) {} gs
    return (b.finish header.chomping, rest)
  | none =>
    let (deepest, breaks, gs) ← leadingBreaks 0 [] gs
    let indent := max (max deepest (outer + 1).toNat) 1
    let (b, rest) ← blockLines literal indent { breaks := breaks } gs
    return (b.finish header.chomping, rest)

end ServiceCli.Yaml
