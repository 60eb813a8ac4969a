/-!
# Scalars in printed YAML

A text is printed without quotes if it would be read back as the same text, else between single
quotes, over several lines, or between double quotes with escapes. `ScalarStyle.of` chooses the
style and `scalarText` prints the text in it.
-/

namespace ServiceCli.Outline

/-- How a text is printed. -/
inductive ScalarStyle where
  | plain | singleQuoted | doubleQuoted
  /-- Over several lines, below a mark. -/
  | literal
  deriving DecidableEq, Repr

/-- Whether a character ends a line. -/
def isLineEnd (c : Char) : Bool :=
  c == '\n' || c == '\r' || c == '\u0085' || c == '\u2028' || c == '\u2029'

/-- Whether a character separates words or ends a line. -/
def isGap (c : Char) : Bool :=
  c == ' ' || c == '\t' || c == '\x00' || isLineEnd c

/-- Whether a character can be printed as it is. -/
def isPrintable (c : Char) : Bool :=
  let n := c.toNat
  n == 0x0A || (0x20 ≤ n && n ≤ 0x7E) || (0xA0 ≤ n && n ≤ 0xD7FF)
    || (0xE000 ≤ n && n ≤ 0xFFFD && n != 0xFEFF) || 0x10000 ≤ n

/-- Whether two characters that satisfy `p` and `q` stand side by side. -/
def hasPair (p q : Char → Bool) : List Char → Bool
  | a :: b :: cs => (p a && q b) || hasPair p q (b :: cs)
  | _ => false

/-- Whether a gap comes next, or the end. -/
def atGap : List Char → Bool
  | c :: _ => isGap c
  | [] => true

/-- Whether a text without quotes would be taken for something else because of how it starts. -/
def startsWithMark : List Char → Bool
  | [] => false
  | c :: cs =>
    "#,[]&*!|>'\"%@".toList.contains c || c == '\x7b' || c == '\x7d' || c.toNat == 0x60
      || ((c == '?' || c == ':' || c == '-') && atGap cs)
      || ['-', '-', '-'].isPrefixOf (c :: cs) || ['.', '.', '.'].isPrefixOf (c :: cs)

/-- Whether a colon before a gap or a comment sign after one stands in a text that follows the
character `previous`. -/
def hasInnerMark (previous : Char) : List Char → Bool
  | [] => false
  | c :: cs =>
    (c == ':' && atGap cs) || (c == '#' && isGap previous) || hasInnerMark c cs

/-- Whether a text holds a mark of YAML. -/
def hasMark (cs : List Char) : Bool :=
  startsWithMark cs || (match cs with
    | c :: cs => hasInnerMark c cs
    | [] => false)

/-- Whether a text has a space or a line end at one of its ends. -/
def hasOuterGap (cs : List Char) : Bool :=
  let isOuter (c : Char) : Bool := c == ' ' || isLineEnd c
  cs.head?.any isOuter || cs.getLast?.any isOuter

/-- Whether only escapes can show a text: it holds a character that cannot be printed, or a space
before a line end. -/
def needsEscapes (cs : List Char) : Bool :=
  !cs.all isPrintable || hasPair (· == ' ') isLineEnd cs

/-- Whether a text can stand between single quotes. -/
def fitsSingleQuotes (cs : List Char) : Bool :=
  !needsEscapes cs && !hasPair isLineEnd (· == ' ') cs

/-- Whether a text can stand without quotes. -/
def fitsPlain (cs : List Char) : Bool :=
  fitsSingleQuotes cs && !cs.any isLineEnd && !hasOuterGap cs && !hasMark cs

/-- Whether a text can stand on lines of its own. -/
def fitsLiteral (cs : List Char) : Bool :=
  !needsEscapes cs && cs.getLast? != some ' '

/-- The words that some version of YAML reads as a truth value, as nothing or as no number, in
small letters. -/
def typedWords : List String :=
  ["", "y", "yes", "n", "no", "true", "false", "on", "off", "null", "nil", "~", "nan"]

/-- Whether a text without quotes could be taken for something else than a text: it is a typed word
in letters of any case, or it starts as numbers do. -/
def isAmbiguous (s : String) : Bool :=
  typedWords.contains s.toLower
    || s.toList.head?.any fun c => c.isDigit || c == '-' || c == '.' || c == '+'

/-- The style in which a text is printed. -/
def ScalarStyle.of (s : String) : ScalarStyle :=
  let cs := s.toList
  if cs.contains '\n' then
    if fitsLiteral cs then literal else doubleQuoted
  else if !isAmbiguous s && fitsPlain cs then plain
  else if fitsSingleQuotes cs then singleQuoted
  else doubleQuoted

/-- A number of spaces. -/
def spaces (n : Nat) : List Char :=
  List.replicate n ' '

/-- The inside of single quotes, with every line after the first one indented. The flag tells that
a line has just ended. -/
def singleQuotedChars (indent : Nat) : Bool → List Char → List Char
  | lineEnded, [] => if lineEnded then spaces indent else []
  | lineEnded, c :: cs =>
    if isLineEnd c then
      (if c = '\n' ∧ !lineEnded then ['\n', c] else [c]) ++ singleQuotedChars indent true cs
    else
      (if lineEnded then spaces indent else []) ++ (if c = '\'' then ['\'', c] else [c])
        ++ singleQuotedChars indent false cs

/-- The lines of a literal text, each of them indented. The flag tells that a line starts. -/
def literalChars (indent : Nat) : Bool → List Char → List Char
  | _, [] => []
  | lineStarts, c :: cs =>
    if isLineEnd c then c :: literalChars indent true cs
    else (if lineStarts then spaces indent else []) ++ c :: literalChars indent false cs

/-- The mark above a literal text: with the indentation, if the text itself starts with a gap, and
with a sign for how many lines end after the last one. -/
def literalMark (cs : List Char) : List Char :=
  let indented := cs.head?.any fun c => c == ' ' || isLineEnd c
  let ending := match cs.reverse with
    | c :: d :: _ => if !isLineEnd c then ['-'] else if isLineEnd d then ['+'] else []
    | [c] => if isLineEnd c then ['+'] else ['-']
    | [] => ['-']
  '|' :: (if indented then ['2'] else []) ++ ending

/-- The digits of a number in the given count of hexadecimal digits. -/
def hexDigits : Nat → Nat → List Char
  | 0, _ => []
  | count + 1, n => hexDigits count (n / 16) ++ [(Nat.digitChar (n % 16)).toUpper]

/-- The letter of an escape. -/
def escapeLetter? (c : Char) : Option Char :=
  [('\x00', '0'), ('\x07', 'a'), ('\x08', 'b'), ('\t', 't'), ('\n', 'n'), ('\x0b', 'v'),
    ('\x0c', 'f'), ('\r', 'r'), ('\x1b', 'e'), ('"', '"'), ('\\', '\\'), ('\u0085', 'N'),
    ('\u00a0', '_'), ('\u2028', 'L'), ('\u2029', 'P')].lookup c

/-- How one character is written between double quotes. -/
def doubleQuotedChar (c : Char) : List Char :=
  if isPrintable c && !isLineEnd c && c != '"' && c != '\\' then [c]
  else match escapeLetter? c with
    | some l => ['\\', l]
    | none =>
      if c.toNat ≤ 0xFF then ['\\', 'x'] ++ hexDigits 2 c.toNat
      else if c.toNat ≤ 0xFFFF then ['\\', 'u'] ++ hexDigits 4 c.toNat
      else ['\\', 'U'] ++ hexDigits 8 c.toNat

/-- The text of a scalar, the later lines of which are indented. -/
def scalarText (indent : Nat) (s : String) : String :=
  let cs := s.toList
  String.ofList (match ScalarStyle.of s with
    | .plain => cs
    | .singleQuoted => '\'' :: singleQuotedChars indent false cs ++ ['\'']
    | .doubleQuoted => '"' :: cs.flatMap doubleQuotedChar ++ ['"']
    | .literal => literalMark cs ++ '\n' :: literalChars indent true cs)

end ServiceCli.Outline
