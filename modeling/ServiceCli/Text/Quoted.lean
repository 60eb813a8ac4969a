import ServiceCli.Text.Hidden

/-!
# Names shown in messages

`quoted` shows a text between double quotes so that every character of it can be told from the
message alone: quotes, backslashes and line ends are escaped, and a character that a reader
would not see is shown by its number.
-/

namespace ServiceCli.Text

/-- Whether a character is shown by its number. -/
def isHidden (c : Char) : Bool :=
  if c.toNat < 0x80 then c.toNat < 0x20 || c.toNat == 0x7F else inSpans hiddenSpans c

/-- The number of a character in hexadecimal digits. -/
def hexNumber (c : Char) : List Char :=
  Nat.toDigits 16 c.toNat

/-- How one character is shown between quotes. -/
def shownChar (c : Char) : List Char :=
  if c = '"' || c = '\\' then ['\\', c]
  else if c.toNat = 0 then ['\\', '0']
  else if c = '\t' then ['\\', 't']
  else if c = '\r' then ['\\', 'r']
  else if c = '\n' then ['\\', 'n']
  else if isHidden c then ['\\', 'u', '\x7b'] ++ hexNumber c ++ ['\x7d']
  else [c]

/-- A text between quotes. -/
def quoted (s : String) : String :=
  String.ofList ('"' :: s.toList.flatMap shownChar ++ ['"'])

end ServiceCli.Text
