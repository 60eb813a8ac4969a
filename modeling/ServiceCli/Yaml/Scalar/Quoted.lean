import ServiceCli.Text.Decimal
import ServiceCli.Yaml.Glyph
import ServiceCli.Yaml.Scalar.Fold

/-!
# Quoted scalars

Between single quotes a quote is written twice and nothing else is escaped. Between double
quotes a backslash starts an escape: a letter for a control character, a number, or the end of a
line, which then disappears. Lines are folded in both.
-/

namespace ServiceCli.Yaml

open Text

/-- What a letter after a backslash stands for. -/
def escapedChar? : Char → Option Char
  | '0' => some '\x00'
  | 'a' => some '\x07'
  | 'b' => some '\x08'
  | 't' => some '\t'
  | '\t' => some '\t'
  | 'n' => some '\n'
  | 'v' => some '\x0b'
  | 'f' => some '\x0c'
  | 'r' => some '\r'
  | 'e' => some '\x1b'
  | ' ' => some ' '
  | '"' => some '"'
  | '/' => some '/'
  | '\\' => some '\\'
  | 'N' => some '\u0085'
  | '_' => some '\u00a0'
  | 'L' => some '\u2028'
  | 'P' => some '\u2029'
  | _ => none

/-- How many digits the number has that a letter after a backslash announces. -/
def codeLength? : Char → Option Nat
  | 'x' => some 2
  | 'u' => some 4
  | 'U' => some 8
  | _ => none

/-- The character of a number. -/
def charOfCode? (n : Nat) : Option Char :=
  if n.isValidChar then some (Char.ofNat n) else none

/-- The rest of a scalar between single quotes, of which `text` has been read, the latest
character first. -/
def singleQuotedFrom (f : Fold) (text : List Char) : List Glyph → Option (String × List Glyph)
  | [] => none
  | g :: rest =>
    if g.isBlank then singleQuotedFrom (f.blank g.char) text rest
    else if g.isBreak then singleQuotedFrom (f.lineEnd g.char) text rest
    else if atDocumentMark (g :: rest) then none
    else if g.char = '\'' then
      match rest with
      | h :: rest' =>
        if h.char = '\'' then singleQuotedFrom {} ('\'' :: f.appendTo text) rest'
        else some (String.ofList (f.appendTo text).reverse, rest)
      | [] => some (String.ofList (f.appendTo text).reverse, rest)
    else singleQuotedFrom {} (g.char :: f.appendTo text) rest

/-- The scalar after a single quote, and what follows it. -/
def singleQuoted (gs : List Glyph) : Option (String × List Glyph) :=
  singleQuotedFrom {} [] gs

/-- The digits of a number that are still to come, and the value of those before them. -/
structure PartialCode where
  left : Nat
  value : Nat := 0
  deriving Repr

/-- The rest of a scalar between double quotes, of which `text` has been read, the latest
character first. `code` is the number in an escape that has not ended. -/
def doubleQuotedFrom (code : Option PartialCode) (f : Fold) (text : List Char) :
    List Glyph → Option (String × List Glyph)
  | [] => none
  | g :: rest =>
    match code with
    | some k =>
      match hexDigit g.char with
      | none => none
      | some d =>
        if k.left ≤ 1 then
          match charOfCode? (k.value * 16 + d) with
          | none => none
          | some c => doubleQuotedFrom none {} (c :: text) rest
        else doubleQuotedFrom (some ⟨k.left - 1, k.value * 16 + d⟩) {} text rest
    | none =>
      if g.isBlank then doubleQuotedFrom none (f.blank g.char) text rest
      else if g.isBreak then doubleQuotedFrom none (f.lineEnd g.char) text rest
      else if atDocumentMark (g :: rest) then none
      else if g.char = '"' then some (String.ofList (f.appendTo text).reverse, rest)
      else if g.char = '\\' then
        match rest with
        | [] => none
        | e :: rest' =>
          if e.isBreak then doubleQuotedFrom none .escapedLineEnd (f.appendTo text) rest'
          else
            match escapedChar? e.char, codeLength? e.char with
            | some c, _ => doubleQuotedFrom none {} (c :: f.appendTo text) rest'
            | none, some n => doubleQuotedFrom (some { left := n }) {} (f.appendTo text) rest'
            | none, none => none
      else doubleQuotedFrom none {} (g.char :: f.appendTo text) rest

/-- The scalar after a double quote, and what follows it. -/
def doubleQuoted (gs : List Glyph) : Option (String × List Glyph) :=
  doubleQuotedFrom none {} [] gs

end ServiceCli.Yaml
