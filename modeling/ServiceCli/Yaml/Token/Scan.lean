import ServiceCli.Yaml.Scalar.Block
import ServiceCli.Yaml.Scalar.Plain
import ServiceCli.Yaml.Scalar.Quoted
import ServiceCli.Yaml.Token.Layout
import ServiceCli.Yaml.Token.Tag

/-!
# Cutting a text into tokens

`tokens?` cuts a text into tokens. Between two tokens blanks, line ends and comments are skipped
(`skipGap`); then the next character decides which token comes (`nextToken`).
-/

namespace ServiceCli.Yaml

/-- Where the reading of tokens has come to. -/
structure Scan where
  layout : Layout := {}
  rest : List Glyph
  deriving Repr

/-- Skips what stands between two tokens. Outside brackets a new line allows a key again. A tab
is skipped only inside brackets and where no key may start, and a byte order mark only at the start
of a line, where it takes a column. -/
def skipGap (inFlow inComment keyAllowed : Bool) : List Glyph → List Glyph × Bool
  | [] => ([], keyAllowed)
  | g :: rest =>
    if g.isBreak then skipGap inFlow false (keyAllowed || !inFlow) rest
    else if g.column = 0 ∧ g.char = '\ufeff' then skipGap inFlow false keyAllowed rest
    else if inComment || g.char == ' ' then skipGap inFlow inComment keyAllowed rest
    else if g.char == '\t' && (inFlow || !keyAllowed) then skipGap inFlow false keyAllowed rest
    else if g.char == '#' then skipGap inFlow true keyAllowed rest
    else (g :: rest, keyAllowed)

/-- Whether a plain scalar may start with `c`. -/
def startsPlain (inFlow : Bool) (c : Char) (rest : List Glyph) : Bool :=
  if c == '-' then !(rest.head?.any Glyph.isBlank)
  else if c == '?' || c == ':' then !inFlow && !atGap rest
  else !(",[]#&*!|>'\"%@\t".toList.contains c || c == '\x7b' || c == '\x7d' || c.toNat == 0x60)

/-- A scalar that may be a key. -/
def keyScalar (l : Layout) (g : Glyph) (style : Style) (read : Option (String × List Glyph)) :
    Option Scan := do
  let l ← l.markKey g
  let (text, rest) ← read
  return ⟨(l.allowKey false).push (.scalar style text), rest⟩

/-- A scalar over indented lines. -/
def blockToken (l : Layout) (style : Style) (literal : Bool) (gs : List Glyph) : Option Scan := do
  let l ← l.dropKey
  let (text, rest) ← blockScalar literal l.indent gs
  return ⟨(l.allowKey true).push (.scalar style text), rest⟩

/-- A plain scalar. -/
def plainToken (l : Layout) (g : Glyph) (gs : List Glyph) : Option Scan := do
  let l ← l.markKey g
  let p ← plainScalar l.inFlow (l.indent + 1) gs
  return ⟨(l.allowKey p.lineEnded).push (.scalar .plain p.text), p.rest⟩

/-- An alias or an anchor. -/
def anchorToken (l : Layout) (g : Glyph) (token : String → Token) (gs : List Glyph) :
    Option Scan := do
  let l ← l.markKey g
  let (name, rest) ← anchorName? gs
  return ⟨(l.allowKey false).push (token name), rest⟩

/-- A tag. -/
def tagScan (l : Layout) (g : Glyph) (gs : List Glyph) : Option Scan := do
  let l ← l.markKey g
  let (token, rest) ← tagToken? l.inFlow gs
  return ⟨(l.allowKey false).push token, rest⟩

/-- A token at the start of a line that stands between documents, if there is one. -/
def documentToken? (l : Layout) (g : Glyph) (rest : List Glyph) : Option (Option Scan) :=
  if g.column = 0 ∧ g.char = '%' then
    some (do
      let l ← l.endDocument
      let (token, rest) ← directiveToken? rest
      return ⟨l.push token, rest⟩)
  else if marksDocument '-' (g :: rest) then
    some (l.endDocument.map fun l => ⟨l.push .documentStart, rest.drop 2⟩)
  else if marksDocument '.' (g :: rest) then
    some (l.endDocument.map fun l => ⟨l.push .documentEnd, rest.drop 2⟩)
  else none

/-- The token that starts with the glyph `g`, when it is no token between documents. -/
def contentToken (l : Layout) (g : Glyph) (rest : List Glyph) : Option Scan :=
  let marked (l : Option Layout) : Option Scan := l.map (⟨·, rest⟩)
  let c := g.char
  if c = '[' then marked ((l.markKey g).map (·.openFlow .flowListStart))
  else if c = '\x7b' then marked ((l.markKey g).map (·.openFlow .flowRecordStart))
  else if c = ']' then marked (l.closeFlow .flowListEnd)
  else if c = '\x7d' then marked (l.closeFlow .flowRecordEnd)
  else if c = ',' then marked (l.dropKey.map fun l => (l.allowKey true).push .comma)
  else if c = '-' ∧ atGap rest then marked (l.addItem g)
  else if c = '?' ∧ (l.inFlow ∨ atGap rest) then marked (l.addKey g)
  else if c = ':' ∧ (l.inFlow ∨ atGap rest) then marked (l.addValue g)
  else if c = '*' then anchorToken l g .aliasOf rest
  else if c = '&' then anchorToken l g .anchor rest
  else if c = '!' then tagScan l g rest
  else if c = '|' ∧ !l.inFlow then blockToken l .literal true rest
  else if c = '>' ∧ !l.inFlow then blockToken l .folded false rest
  else if c = '\'' then keyScalar l g .quoted (singleQuoted rest)
  else if c = '"' then keyScalar l g .quoted (doubleQuoted rest)
  else if startsPlain l.inFlow c rest then plainToken l g (g :: rest)
  else none

/-- Reads the next token. At the end of the text nothing is left to read. -/
def nextToken (s : Scan) : Option Scan := do
  let (gs, keyAllowed) := skipGap s.layout.inFlow false s.layout.keyAllowed s.rest
  let l := s.layout.allowKey keyAllowed
  match gs with
  | [] => return ⟨(← l.endDocument).push .finish, []⟩
  | g :: rest =>
    let l := (← l.dropStale g).close g.column
    match documentToken? l g rest with
    | some found => found
    | none => contentToken l g rest

/-- Reads tokens up to the end of the text. Every token but the last one takes a character, so
there are at most `room` of them when the text has fewer characters. -/
def scanAll : Nat → Scan → Option (List Token)
  | 0, _ => none
  | room + 1, s => do
    let s ← nextToken s
    if s.layout.tokens.head? = some .finish then return s.layout.tokens.reverse
    else scanAll room s

/-- The tokens of a text. -/
def tokens? (s : String) : Option (List Token) := do
  let gs ← glyphs? s
  scanAll (gs.length + 1) { rest := gs }

end ServiceCli.Yaml
