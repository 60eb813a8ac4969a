import ServiceCli.Wire.Part
import ServiceCli.Wire.Piece

/-!
# Records on the wire

`Record.read?` reads the bytes of a part of a descriptor as a record of its known fields, in the
order in which they were written. All known fields are read, also those that nobody asks for, so
bytes that break the form of any of them are refused. Unknown fields are skipped, groups of
fields among them.

Parts stand inside parts to a depth of one hundred at most, and skipping takes one level of depth
more for each group that is open.
-/

namespace ServiceCli.Wire

/-- The value of a field. Double-precision numbers are not kept. -/
inductive Value where
  | text (s : String)
  | bytes (bs : List UInt8)
  | number (n : Nat)
  | eight
  | record (fields : List (Nat × Value))
  deriving Repr, Inhabited

/-- The fields of a part, in the order in which they were written. -/
abbrev Record := List (Nat × Value)

/-- All numbers in a list of bytes, after those that are already `done`, the latest first. -/
def numbersAfter (done : List Nat) (bytes : List UInt8) : Option (List Nat) :=
  if bytes.isEmpty then some done.reverse
  else match _h : number? bytes with
    | some (n, rest) => numbersAfter (n :: done) rest
    | none => none
termination_by bytes.length
decreasing_by exact length_lt_of_number? ‹_›

/-- The text that a list of bytes encodes. -/
def text? (bs : List UInt8) : Option String :=
  String.fromUTF8? ⟨bs.toArray⟩

/-- The values in the payload of a field of a known kind, given how a part is read. -/
def values? (part : Part → List UInt8 → Option Record) : Kind → Payload → Option (List Value)
  | .text, .bytes bs => (text? bs).map fun s => [.text s]
  | .bytes, .bytes bs => some [.bytes bs]
  | .number, .number n => some [.number n]
  | .numbers, .number n => some [.number n]
  | .numbers, .bytes bs => (numbersAfter [] bs).map fun ns => ns.map .number
  | .eight, .eight => some [.eight]
  | .part p, .bytes bs => (part p bs).map fun r => [.record r]
  | _, _ => none

/-- The fields in a list of pieces, after those that are already `done`, the latest first. `open_`
holds the numbers of the groups around the pieces, the innermost first, and `depth` says how deep
groups may be nested. -/
def fieldsAfter (part : Part → List UInt8 → Option Record) (p : Part) (depth : Nat) :
    List Nat → Record → List Piece → Option Record
  | [], done, [] => some done.reverse
  | _ :: _, _, [] => none
  | [], done, ⟨tag, payload⟩ :: rest =>
    match p.kind? tag with
    | some kind =>
      (values? part kind payload).bind fun vs =>
        fieldsAfter part p depth [] (vs.foldl (fun r v => (tag, v) :: r) done) rest
    | none =>
      if depth = 0 then none
      else match payload with
        | .groupStart => fieldsAfter part p depth [tag] done rest
        | .groupEnd => none
        | _ => fieldsAfter part p depth [] done rest
  | group :: groups, done, ⟨tag, payload⟩ :: rest =>
    match payload with
    | .groupEnd => if tag = group then fieldsAfter part p depth groups done rest else none
    | .groupStart =>
      if groups.length + 1 < depth then fieldsAfter part p depth (tag :: group :: groups) done rest
      else none
    | _ =>
      if groups.length + 1 < depth then fieldsAfter part p depth (group :: groups) done rest
      else none

namespace Record

/-- The record of a part, inside which parts may be nested to a depth. -/
def within : Nat → Part → List UInt8 → Option Record
  | 0, p, bytes => (pieces bytes).bind (fieldsAfter (fun _ _ => none) p 0 [] [])
  | depth + 1, p, bytes => (pieces bytes).bind (fieldsAfter (within depth) p (depth + 1) [] [])

/-- How deep parts may be nested inside the outermost one. -/
def maxDepth : Nat := 100

/-- The record of a part. -/
def read? (p : Part) (bytes : List UInt8) : Option Record :=
  within maxDepth p bytes

/-- The values of a field. -/
def all (r : Record) (tag : Nat) : List Value :=
  (r.filter (·.1 == tag)).map Prod.snd

/-- The texts of a field. -/
def texts (r : Record) (tag : Nat) : List String :=
  (r.all tag).filterMap fun
    | .text s => some s
    | _ => none

/-- The numbers of a field. -/
def numbers (r : Record) (tag : Nat) : List Nat :=
  (r.all tag).filterMap fun
    | .number n => some n
    | _ => none

/-- The text of a field that holds one: the last that was written. -/
def text (r : Record) (tag : Nat) : Option String :=
  (r.texts tag).getLast?

/-- The truth value of a field that holds one. -/
def bool (r : Record) (tag : Nat) : Option Bool :=
  (r.numbers tag).getLast?.map (· != 0)

/-- The number of 32 bits with a sign of a field that holds one. Higher bits are dropped. -/
def int32 (r : Record) (tag : Nat) : Option Int :=
  (r.numbers tag).getLast?.map fun n => Int.bmod n UInt32.size

/-- The records of a field. -/
def records (r : Record) (tag : Nat) : List Record :=
  (r.all tag).filterMap fun
    | .record fields => some fields
    | _ => none

/-- The record of a field that holds one. What was written in several pieces is put together. -/
def record (r : Record) (tag : Nat) : Option Record :=
  match r.records tag with
  | [] => none
  | rs => some rs.flatten

end Record

end ServiceCli.Wire
