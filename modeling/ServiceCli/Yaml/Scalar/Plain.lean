import ServiceCli.Yaml.Glyph
import ServiceCli.Yaml.Scalar.Fold

/-!
# Plain scalars

A scalar without quotes ends at a colon with a gap after it, at a comment, at a line that is not
indented deeper than what is around it, and at a mark between documents. Inside brackets it also
ends at a comma and at a bracket.
-/

namespace ServiceCli.Yaml

/-- A plain scalar that has been read. -/
structure PlainScalar where
  text : String
  /-- Whether a line ended after its last word. -/
  lineEnded : Bool
  rest : List Glyph
  deriving Repr

/-- The characters that end a plain scalar inside brackets. -/
def isFlowMark (c : Char) : Bool :=
  c == ',' || c == '[' || c == ']' || c == '\x7b' || c == '\x7d'

/-- Whether a colon inside brackets stands where it cannot be understood. -/
def isStrayColon (inFlow : Bool) (c : Char) (rest : List Glyph) : Bool :=
  inFlow && c == ':' && (rest.head?.any fun g => isFlowMark g.char || g.char == '?')

/-- Whether a word of a plain scalar ends before `c`. -/
def endsPlain (inFlow : Bool) (c : Char) (rest : List Glyph) : Bool :=
  (c == ':' && atGap rest) || (inFlow && isFlowMark c)

/-- Whether a plain scalar ends at the glyph `g` after white space. -/
def endsAfterGap (inFlow : Bool) (indent : Int) (g : Glyph) (rest : List Glyph) : Bool :=
  (!inFlow && decide ((g.column : Int) < indent)) || atDocumentMark (g :: rest) || g.char == '#'

/-- The rest of a plain scalar, of which `text` has been read, the latest character first. A tab
before the column `indent` of a new line is refused. -/
def plainFrom (inFlow : Bool) (indent : Int) (f : Fold) (text : List Char) :
    List Glyph → Option PlainScalar
  | [] => some ⟨String.ofList text.reverse, f.lineEnded, []⟩
  | g :: rest =>
    if g.isBlank then
      if f.lineEnded && decide ((g.column : Int) < indent) && g.char == '\t' then none
      else plainFrom inFlow indent (f.blank g.char) text rest
    else if g.isBreak then plainFrom inFlow indent (f.lineEnd g.char) text rest
    else if f.isPending && endsAfterGap inFlow indent g rest then
      some ⟨String.ofList text.reverse, f.lineEnded, g :: rest⟩
    else if isStrayColon inFlow g.char rest then none
    else if endsPlain inFlow g.char rest then
      some ⟨String.ofList text.reverse, f.lineEnded, g :: rest⟩
    else plainFrom inFlow indent {} (g.char :: f.appendTo text) rest

/-- The plain scalar at the front of a list. -/
def plainScalar (inFlow : Bool) (indent : Int) (gs : List Glyph) : Option PlainScalar :=
  plainFrom inFlow indent {} [] gs

end ServiceCli.Yaml
