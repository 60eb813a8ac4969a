import ServiceCli.Text.Decimal
import ServiceCli.Text.Pieces

/-!
# Truth values, whole numbers and nothing in YAML

Which plain scalars stand for nothing, for a truth value and for a whole number. Numbers may have
a sign and may be hexadecimal, octal or binary. A decimal number has no zeros in front.
-/

namespace ServiceCli.Yaml

open Text

/-- Whether a text stands for nothing. -/
def isNull (s : String) : Bool :=
  s == "null" || s == "Null" || s == "NULL" || s == "~"

/-- The truth value that a text stands for. -/
def bool? (s : String) : Option Bool :=
  if s = "true" ∨ s = "True" ∨ s = "TRUE" then some true
  else if s = "false" ∨ s = "False" ∨ s = "FALSE" then some false
  else none

/-- A number in decimal digits without zeros in front. -/
def plainDecimal? : List Char → Option Nat
  | '0' :: c :: cs => if (c :: cs).all Char.isDigit then none else decimal? ('0' :: c :: cs)
  | cs => decimal? cs

/-- The number that a list without a sign stands for. -/
def unsigned? : List Char → Option Nat
  | '0' :: 'x' :: cs => numeral? 16 hexDigit cs
  | '0' :: 'o' :: cs => numeral? 8 (digitBelow 8) cs
  | '0' :: 'b' :: cs => numeral? 2 (digitBelow 2) cs
  | cs => plainDecimal? cs

/-- The number without a minus sign that a text stands for. -/
def nat? (s : String) : Option Nat :=
  match s.toList with
  | '+' :: cs => unsigned? cs
  | cs => unsigned? cs

/-- The number that a text stands for. -/
def int? (s : String) : Option Int :=
  match s.toList with
  | '-' :: cs => (unsigned? cs).map fun n => -(n : Int)
  | _ => (nat? s).map Int.ofNat

end ServiceCli.Yaml
