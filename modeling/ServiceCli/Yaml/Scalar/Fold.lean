/-!
# Folded lines

A scalar may go over several lines. `Fold` collects the white space between two words of it.
When the next word comes, white space inside a line stands as it is, one line end becomes a
space, and several become one fewer; blanks next to a line end disappear.
-/

namespace ServiceCli.Yaml

/-- The white space since the last word. Lists have the latest character first. -/
structure Fold where
  /-- The blanks inside the line. -/
  blanks : List Char := []
  /-- The first line end. -/
  firstBreak : Option Char := none
  /-- The other line ends. -/
  moreBreaks : List Char := []
  /-- Whether a line has ended. -/
  lineEnded : Bool := false
  deriving DecidableEq, Repr

namespace Fold

/-- Whether there is white space at all. -/
def isPending (f : Fold) : Bool :=
  f.lineEnded || !f.blanks.isEmpty

/-- The white space after one more blank. -/
def blank (f : Fold) (c : Char) : Fold :=
  if f.lineEnded then f else { f with blanks := c :: f.blanks }

/-- The white space after one more line end. -/
def lineEnd (f : Fold) (c : Char) : Fold :=
  if f.lineEnded then { f with moreBreaks := c :: f.moreBreaks }
  else { firstBreak := some c, lineEnded := true }

/-- The white space after a line end that is escaped and so leaves nothing. -/
def escapedLineEnd : Fold :=
  { lineEnded := true }

/-- A text, the latest character first, with the folded white space after it. -/
def appendTo (f : Fold) (text : List Char) : List Char :=
  if f.lineEnded then
    match f.firstBreak with
    | some c =>
      if c = '\n' then
        if f.moreBreaks.isEmpty then ' ' :: text else f.moreBreaks ++ text
      else f.moreBreaks ++ c :: text
    | none => f.moreBreaks ++ text
  else f.blanks ++ text

end Fold

end ServiceCli.Yaml
