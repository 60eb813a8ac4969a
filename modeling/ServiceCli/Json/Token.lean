import ServiceCli.Text.Decimal

/-!
# Tokens of JSON

A JSON text is cut into tokens one character at a time (`Scanner.step`): brackets, commas and
colons, texts between quotes, and words, which are `null`, `true`, `false` and numbers
(`Token.ofWord?`). A number is kept as it is written.

A text may name a character by two numbers, each one half of a pair. One that names only a half
is no text, but it is still a token (`Token.text none`), so that what nobody reads may hold it.
-/

namespace ServiceCli.Json

open Text

/-- A token of JSON. -/
inductive Token where
  | listStart | listEnd | recordStart | recordEnd | comma | colon
  | null
  | bool (b : Bool)
  /-- A number, as it is written. -/
  | number (numeral : String)
  /-- A text, unless it holds half a pair. -/
  | text (s : Option String)
  deriving DecidableEq, Repr

/-- The characters that are skipped between tokens. -/
def isBlank (c : Char) : Bool :=
  c == ' ' || c == '\t' || c == '\n' || c == '\r'

/-- The token that one character makes up. -/
def Token.ofMark? : Char → Option Token
  | '[' => some listStart
  | ']' => some listEnd
  | '\x7b' => some recordStart
  | '\x7d' => some recordEnd
  | ',' => some comma
  | ':' => some colon
  | _ => none

/-- Whether a list is a run of digits, one at least. -/
def isDigits (cs : List Char) : Bool :=
  !cs.isEmpty && cs.all Char.isDigit

/-- Whether a list is empty or an exponent. -/
def isExponent : List Char → Bool
  | [] => true
  | e :: '+' :: cs => (e == 'e' || e == 'E') && isDigits cs
  | e :: '-' :: cs => (e == 'e' || e == 'E') && isDigits cs
  | e :: cs => (e == 'e' || e == 'E') && isDigits cs

/-- Whether a list is what may follow the whole part of a number. -/
def isNumeralTail : List Char → Bool
  | '.' :: cs => !(cs.takeWhile Char.isDigit).isEmpty && isExponent (cs.dropWhile Char.isDigit)
  | cs => isExponent cs

/-- Whether a list is a number without its sign. -/
def isUnsigned : List Char → Bool
  | '0' :: cs => isNumeralTail cs
  | cs => !(cs.takeWhile Char.isDigit).isEmpty && isNumeralTail (cs.dropWhile Char.isDigit)

/-- Whether a list is a number. -/
def isNumeral : List Char → Bool
  | '-' :: cs => isUnsigned cs
  | cs => isUnsigned cs

/-- The token that a word makes up. -/
def Token.ofWord? (cs : List Char) : Option Token :=
  let s := String.ofList cs
  if s = "null" then some null
  else if s = "true" then some (bool true)
  else if s = "false" then some (bool false)
  else if isNumeral cs then some (number s)
  else none

/-- A text of which a part has been read. -/
structure PartialText where
  /-- The characters so far, the latest first, unless half a pair stood alone. -/
  chars : Option (List Char) := some []
  /-- The first half of a pair, when the second half has to come next. -/
  half : Option Nat := none
  deriving Repr

namespace PartialText

/-- The text after a character. -/
def push (t : PartialText) (c : Char) : PartialText :=
  if t.half.isSome then ⟨none, none⟩ else ⟨t.chars.map (c :: ·), none⟩

/-- The text after the number of a character or of half a pair. -/
def pushCode (t : PartialText) (n : Nat) : PartialText :=
  match t.half with
  | some h =>
    if 0xDC00 ≤ n ∧ n < 0xE000 then
      ⟨t.chars.map (Char.ofNat (0x10000 + (h - 0xD800) * 0x400 + (n - 0xDC00)) :: ·), none⟩
    else ⟨none, none⟩
  | none =>
    if 0xD800 ≤ n ∧ n < 0xDC00 then { t with half := some n }
    else if 0xDC00 ≤ n ∧ n < 0xE000 then ⟨none, none⟩
    else t.push (Char.ofNat n)

/-- The token of a text that ends here. -/
def token (t : PartialText) : Token :=
  .text (if t.half.isSome then none else t.chars.map fun cs => String.ofList cs.reverse)

end PartialText

/-- What a character after a backslash stands for. -/
def escapedChar? : Char → Option Char
  | '"' => some '"'
  | '\\' => some '\\'
  | '/' => some '/'
  | 'b' => some '\x08'
  | 'f' => some '\x0c'
  | 'n' => some '\n'
  | 'r' => some '\r'
  | 't' => some '\t'
  | _ => none

/-- Where the scanner stands. -/
inductive Mode where
  | between
  /-- In a word, the latest character of which comes first. -/
  | word (chars : List Char)
  | text (t : PartialText)
  /-- After a backslash. -/
  | escape (t : PartialText)
  /-- In a number of four digits, some of which are still to come. -/
  | code (t : PartialText) (left : Nat) (value : Nat)
  deriving Repr

/-- The tokens so far, the latest first, and where the scanner stands. -/
structure Scanner where
  mode : Mode := .between
  done : List Token := []
  deriving Repr

namespace Scanner

/-- The scanner after a character between two tokens. -/
def start (done : List Token) (c : Char) : Scanner :=
  if isBlank c then ⟨.between, done⟩
  else if c = '"' then ⟨.text {}, done⟩
  else match Token.ofMark? c with
    | some t => ⟨.between, t :: done⟩
    | none => ⟨.word [c], done⟩

/-- Whether a character ends the word before it. -/
def endsWord (c : Char) : Bool :=
  isBlank c || c == '"' || (Token.ofMark? c).isSome

/-- The scanner after one more character. -/
def step (s : Scanner) (c : Char) : Option Scanner :=
  match s.mode with
  | .between => some (start s.done c)
  | .word w =>
    if endsWord c then (Token.ofWord? w.reverse).map fun t => start (t :: s.done) c
    else some { s with mode := .word (c :: w) }
  | .text t =>
    if c = '"' then some ⟨.between, t.token :: s.done⟩
    else if c = '\\' then some { s with mode := .escape t }
    else if c.toNat < 0x20 then none
    else some { s with mode := .text (t.push c) }
  | .escape t =>
    if c = 'u' then some { s with mode := .code t 4 0 }
    else (escapedChar? c).map fun e => { s with mode := .text (t.push e) }
  | .code t left value =>
    (hexDigit c).map fun d =>
      if left ≤ 1 then { s with mode := .text (t.pushCode (value * 16 + d)) }
      else { s with mode := .code t (left - 1) (value * 16 + d) }

/-- The tokens of a text that ends here. -/
def finish (s : Scanner) : Option (List Token) :=
  match s.mode with
  | .between => some s.done.reverse
  | .word w => (Token.ofWord? w.reverse).map fun t => (t :: s.done).reverse
  | _ => none

end Scanner

/-- The tokens of a text. -/
def tokens (cs : List Char) : Option (List Token) :=
  (cs.foldlM Scanner.step {}).bind Scanner.finish

end ServiceCli.Json
