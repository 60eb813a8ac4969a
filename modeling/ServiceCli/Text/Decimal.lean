/-!
# Whole numbers in decimal digits

`decimal?` reads a text that consists of decimal digits, one at least, and nothing else.
-/

namespace ServiceCli.Text

/-- The number that a list of digits adds to, when the digits before them had the value
`before`. -/
def digitsValue (base : Nat) (digit : Char → Option Nat) : Nat → List Char → Option Nat
  | before, [] => some before
  | before, c :: cs => (digit c).bind fun d => digitsValue base digit (before * base + d) cs

/-- The value of a decimal digit. -/
def decimalDigit (c : Char) : Option Nat :=
  if c.isDigit then some (c.toNat - '0'.toNat) else none

/-- The value of a hexadecimal digit. -/
def hexDigit (c : Char) : Option Nat :=
  if c.isDigit then some (c.toNat - '0'.toNat)
  else if 'a' ≤ c ∧ c ≤ 'f' then some (c.toNat - 'a'.toNat + 10)
  else if 'A' ≤ c ∧ c ≤ 'F' then some (c.toNat - 'A'.toNat + 10)
  else none

/-- The value of a digit below `base`, which is at most ten. -/
def digitBelow (base : Nat) (c : Char) : Option Nat :=
  (decimalDigit c).filter (· < base)

/-- A number in one digit or more of a base. -/
def numeral? (base : Nat) (digit : Char → Option Nat) (cs : List Char) : Option Nat :=
  if cs.isEmpty then none else digitsValue base digit 0 cs

/-- A number in decimal digits. -/
def decimal? (cs : List Char) : Option Nat :=
  numeral? 10 decimalDigit cs

end ServiceCli.Text
