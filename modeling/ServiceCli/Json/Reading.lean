import ServiceCli.Json.Value
import ServiceCli.Reading.Format

/-!
# JSON as a data format

How texts, numbers, lists and records are read from JSON values. A record may also be written as
a list of its values, in the order of its names, and a case as a record with the case as its only
key and `null` as its value. Lists and records are nested to a depth of 127 at most where they
are read; what is skipped may be nested deeper.
-/

namespace ServiceCli.Json

open Text

/-- The value of a number without a fraction and an exponent. Minus zero is no whole number. -/
def whole? (numeral : String) : Option Int :=
  match numeral.toList with
  | ['-', '0'] => none
  | '-' :: cs => (decimal? cs).map fun n => -(n : Int)
  | cs => (decimal? cs).map Int.ofNat

/-- A whole number in a range. -/
def wholeIn (low high : Int) : Json → Option Int
  | number n => (whole? n).filter fun i => decide (low ≤ i) && decide (i < high)
  | _ => none

/-- The entries of a record, if all keys are texts. -/
def entries? : Json → Option (List (String × Json))
  | record es => es.mapM fun (k, v) => k.map (·, v)
  | _ => none

/-- The entries of a record that are among the names. -/
def record? (names : List String) : Json → Option (List (String × Json))
  | list items => if items.length ≤ names.length then some (names.zip items) else none
  | v => v.entries?.bind (Format.chosen names)

/-- The name of a case. -/
def case? (room : Nat) : Json → Option String
  | text s => s
  | record [(key, null)] => if room = 0 then none else key
  | _ => none

/-- JSON as a data format. -/
def format : Format Json where
  text
    | text s => StateT.lift s
    | _ => failure
  bool
    | bool b => pure b
    | _ => failure
  int32 v := StateT.lift (v.wholeIn (-2147483648) 2147483648)
  nat64 v := StateT.lift ((v.wholeIn 0 UInt64.size).map Int.toNat)
  case room v := StateT.lift (v.case? room)
  optional
    | null => pure none
    | v => pure (some v)
  list
    | _ + 1, list items => pure items
    | _, _ => failure
  record room names v := if room = 0 then failure else StateT.lift (v.record? names)
  entries room v := if room = 0 then failure else StateT.lift v.entries?
  room := 127

/-- Reads a value at the top of a text. -/
def read? {α : Type} (decode : Format Json → Nat → Json → Reading α) (v : Json) : Option α :=
  (decode format format.room v).run' 0

end ServiceCli.Json
