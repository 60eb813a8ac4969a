/-!
# Go string literals

`goString` writes a text as an interpreted string literal of Go. Quotes, backslashes and
controls are escaped, so the literal ends where the text ends.
-/

namespace ServiceCli.GoText

/-- Whether a character is a control: one of the first 32, the delete character or one of the 32
after it. -/
def isControl (c : Char) : Bool :=
  c.toNat < 0x20 || (0x7F ≤ c.toNat && c.toNat < 0xA0)

/-- The hexadecimal digit of a number below sixteen. -/
def hexDigitChar (n : Nat) : Char :=
  if n < 10 then Char.ofNat ('0'.toNat + n) else Char.ofNat ('a'.toNat + (n - 10))

/-- The last four hexadecimal digits of a number. -/
def fourHexDigits (n : Nat) : List Char :=
  [hexDigitChar (n / 4096 % 16), hexDigitChar (n / 256 % 16), hexDigitChar (n / 16 % 16),
    hexDigitChar (n % 16)]

/-- How one character is written in a literal. -/
def literalChar (c : Char) : List Char :=
  if c = '"' then ['\\', '"']
  else if c = '\\' then ['\\', '\\']
  else if c = '\n' then ['\\', 'n']
  else if c = '\r' then ['\\', 'r']
  else if c = '\t' then ['\\', 't']
  else if isControl c then ['\\', 'u'] ++ fourHexDigits c.toNat
  else [c]

/-- The text as a Go string literal. -/
def goString (s : String) : String :=
  String.ofList ('"' :: s.toList.flatMap literalChar ++ ['"'])

theorem toList_goString (s : String) :
    (goString s).toList = '"' :: s.toList.flatMap literalChar ++ ['"'] :=
  String.toList_ofList

end ServiceCli.GoText
