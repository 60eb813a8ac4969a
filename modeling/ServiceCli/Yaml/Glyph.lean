/-!
# Characters on a page

In a YAML text it matters where a character stands: on which line and in which column. A `Glyph`
is a character with its place. `glyphs?` lays a text out; the line ends of all systems become
one, and a text with a control character is refused.
-/

namespace ServiceCli.Yaml

/-- A character and where it stands. -/
structure Glyph where
  char : Char
  line : Nat
  column : Nat
  /-- The number of bytes before it on its line. -/
  offset : Nat
  deriving DecidableEq, Repr, Inhabited

/-- Whether a character may stand in a YAML text. -/
def isAllowed (c : Char) : Bool :=
  let n := c.toNat
  n == 0x09 || n == 0x0A || n == 0x0D || (0x20 ≤ n && n ≤ 0x7E) || n == 0x85
    || (0xA0 ≤ n && n ≤ 0xD7FF) || (0xE000 ≤ n && n ≤ 0xFFFD) || 0x10000 ≤ n

/-- Whether a character ends a line, after the line ends have become one. -/
def isBreak (c : Char) : Bool :=
  c == '\n' || c == '\u2028' || c == '\u2029'

/-- Whether a character is a space or a tab. -/
def isBlank (c : Char) : Bool :=
  c == ' ' || c == '\t'

/-- A text in which every line ends with a line feed or with a separator of Unicode. -/
def withLineFeeds : List Char → List Char
  | '\r' :: '\n' :: cs => '\n' :: withLineFeeds cs
  | c :: cs => (if c = '\r' ∨ c = '\u0085' then '\n' else c) :: withLineFeeds cs
  | [] => []

/-- Characters laid out from a line, a column and an offset on, after those that are already
`done`, the latest first. -/
def layOut (done : List Glyph) (line column offset : Nat) : List Char → List Glyph
  | [] => done.reverse
  | c :: cs =>
    let done := ⟨c, line, column, offset⟩ :: done
    if isBreak c then layOut done (line + 1) 0 0 cs
    else layOut done line (column + 1) (offset + c.utf8Size) cs

/-- A text laid out, if all its characters are allowed. -/
def glyphs? (s : String) : Option (List Glyph) :=
  if s.toList.all isAllowed then some (layOut [] 0 0 0 (withLineFeeds s.toList)) else none

namespace Glyph

/-- Whether the glyph ends a line. -/
def isBreak (g : Glyph) : Bool :=
  Yaml.isBreak g.char

/-- Whether the glyph is a space or a tab. -/
def isBlank (g : Glyph) : Bool :=
  Yaml.isBlank g.char

end Glyph

/-- Whether a list starts with the character `c`. -/
def startsWith (c : Char) : List Glyph → Bool
  | g :: _ => g.char == c
  | [] => false

/-- Whether a list starts with a blank or a line end, or has ended. -/
def atGap : List Glyph → Bool
  | g :: _ => g.isBlank || g.isBreak
  | [] => true

/-- Whether three equal characters `c` stand at the start of a line, with a gap after them. -/
def marksDocument (c : Char) : List Glyph → Bool
  | x :: y :: z :: rest =>
    x.column == 0 && x.char == c && y.char == c && z.char == c && atGap rest
  | _ => false

/-- Whether a document starts or ends here. -/
def atDocumentMark (gs : List Glyph) : Bool :=
  marksDocument '-' gs || marksDocument '.' gs

/-- A letter, a digit, a hyphen or an underscore, all of ASCII. -/
def isWordChar (c : Char) : Bool :=
  c.isAlphanum || c == '-' || c == '_'

/-- The characters at the front of a list that satisfy `p`, and the rest. -/
def takeRun (p : Char → Bool) (gs : List Glyph) : List Char × List Glyph :=
  ((gs.takeWhile fun g => p g.char).map Glyph.char, gs.dropWhile fun g => p g.char)

/-- The list without the blanks in front. -/
def skipBlanks (gs : List Glyph) : List Glyph :=
  gs.dropWhile Glyph.isBlank

/-- What is left of a list after the line end in front of it, when nothing but blanks and a
comment stands before that. -/
def finishLine (gs : List Glyph) : Option (List Glyph) :=
  match skipBlanks gs with
  | [] => some []
  | g :: rest =>
    if g.char = '#' then some ((rest.dropWhile fun g => !g.isBreak).drop 1)
    else if g.isBreak then some rest
    else none

end ServiceCli.Yaml
