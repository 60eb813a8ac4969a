import ServiceCli.GoText.Literal
import ServiceCli.Outline

/-!
# Outlines in JSON

`compact` prints an outline without blanks, `pretty` with one entry or item a line, two spaces
deeper than what holds it. Only quotes, backslashes and the first 32 characters are escaped in
texts.
-/

namespace ServiceCli.Outline

/-- How one character is written in a JSON text. -/
def jsonChar (c : Char) : List Char :=
  if c = '"' then ['\\', '"']
  else if c = '\\' then ['\\', '\\']
  else if c.toNat = 8 then ['\\', 'b']
  else if c.toNat = 12 then ['\\', 'f']
  else if c = '\n' then ['\\', 'n']
  else if c = '\r' then ['\\', 'r']
  else if c = '\t' then ['\\', 't']
  else if c.toNat < 0x20 then ['\\', 'u'] ++ GoText.fourHexDigits c.toNat
  else [c]

/-- A text in JSON. -/
def jsonText (s : String) : String :=
  String.ofList ('"' :: s.toList.flatMap jsonChar ++ ['"'])

/-- A number in decimal digits. -/
def digits (n : Nat) : String :=
  String.ofList (Nat.toDigits 10 n)

mutual

/-- An outline in JSON without blanks. -/
def compact : Outline → String
  | text s => jsonText s
  | number n => digits n
  | list [] => "[]"
  | list (x :: xs) => "[" ++ compact x ++ compactItems xs ++ "]"
  | record [] => "\x7b\x7d"
  | record ((k, v) :: es) => "\x7b" ++ jsonText k ++ ":" ++ compact v ++ compactEntries es ++ "\x7d"

/-- The items after the first one. -/
def compactItems : List Outline → String
  | [] => ""
  | x :: xs => "," ++ compact x ++ compactItems xs

/-- The entries after the first one. -/
def compactEntries : List (String × Outline) → String
  | [] => ""
  | (k, v) :: es => "," ++ jsonText k ++ ":" ++ compact v ++ compactEntries es

end

/-- The start of a line at a depth. -/
def jsonIndent (depth : Nat) : String :=
  "\n" ++ String.ofList (List.replicate (2 * depth) ' ')

mutual

/-- An outline in JSON over several lines, inside `depth` others. -/
def prettyAt (depth : Nat) : Outline → String
  | text s => jsonText s
  | number n => digits n
  | list [] => "[]"
  | list (x :: xs) =>
    "[" ++ jsonIndent (depth + 1) ++ prettyAt (depth + 1) x ++ prettyItems (depth + 1) xs
      ++ jsonIndent depth ++ "]"
  | record [] => "\x7b\x7d"
  | record ((k, v) :: es) =>
    "\x7b" ++ jsonIndent (depth + 1) ++ jsonText k ++ ": " ++ prettyAt (depth + 1) v
      ++ prettyEntries (depth + 1) es ++ jsonIndent depth ++ "\x7d"

/-- The items after the first one. -/
def prettyItems (depth : Nat) : List Outline → String
  | [] => ""
  | x :: xs => "," ++ jsonIndent depth ++ prettyAt depth x ++ prettyItems depth xs

/-- The entries after the first one. -/
def prettyEntries (depth : Nat) : List (String × Outline) → String
  | [] => ""
  | (k, v) :: es =>
    "," ++ jsonIndent depth ++ jsonText k ++ ": " ++ prettyAt depth v ++ prettyEntries depth es

end

/-- An outline in JSON over several lines. -/
def pretty (o : Outline) : String :=
  prettyAt 0 o

end ServiceCli.Outline
