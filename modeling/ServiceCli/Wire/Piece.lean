import ServiceCli.Wire.Varint

/-!
# Pieces of a message on the wire

The bytes of a message are a row of pieces (`pieces`). Each has the number of a field and a
payload, the form of which can be told without knowing the field: a number, four or eight bytes,
or a counted row of bytes. A group of fields is bounded by two pieces of its own.
-/

namespace ServiceCli.Wire

/-- What a piece carries. -/
inductive Payload where
  | number (n : Nat)
  | eight
  | four
  | bytes (bs : List UInt8)
  | groupStart
  | groupEnd
  deriving DecidableEq, Repr

/-- One piece of a message. -/
structure Piece where
  /-- The number of the field, which is not zero. -/
  tag : Nat
  payload : Payload
  deriving DecidableEq, Repr

/-- The first `n` bytes and the others, if there are as many. -/
def cut (n : Nat) (bytes : List UInt8) : Option (List UInt8 × List UInt8) :=
  if (bytes.take n).length = n then some (bytes.take n, bytes.drop n) else none

/-- The payload at the front of a list, the form of which has the given number. -/
def payload? (form : Nat) (bytes : List UInt8) : Option (Payload × List UInt8) :=
  match form with
  | 0 => (number? bytes).map fun (n, rest) => (.number n, rest)
  | 1 => (cut 8 bytes).map fun (_, rest) => (.eight, rest)
  | 2 => (number? bytes).bind fun (n, rest) =>
    (cut n rest).map fun (bs, rest) => (.bytes bs, rest)
  | 3 => some (.groupStart, bytes)
  | 4 => some (.groupEnd, bytes)
  | 5 => (cut 4 bytes).map fun (_, rest) => (.four, rest)
  | _ => none

/-- The piece at the front of a list, and what follows it. The key in front of the payload is a
number of 32 bits: that of the field times eight, and that of the form. -/
def piece? (bytes : List UInt8) : Option (Piece × List UInt8) :=
  (number? bytes).bind fun (key, rest) =>
    if key < UInt32.size ∧ key / 8 ≠ 0 then
      (payload? (key % 8) rest).map fun (p, rest) => (⟨key / 8, p⟩, rest)
    else none

theorem length_le_of_cut {n : Nat} {bytes front rest : List UInt8}
    (h : cut n bytes = some (front, rest)) : rest.length ≤ bytes.length := by
  unfold cut at h
  split at h
  · simp only [Option.some.injEq, Prod.mk.injEq] at h
    simp [← h.2]
  · cases h

theorem length_le_of_payload? {form : Nat} {bytes rest : List UInt8} {p : Payload}
    (h : payload? form bytes = some (p, rest)) : rest.length ≤ bytes.length := by
  unfold payload? at h
  split at h
  · obtain ⟨⟨n, r⟩, hr, he⟩ := Option.map_eq_some_iff.1 h
    simp only [Prod.mk.injEq] at he
    exact he.2 ▸ Nat.le_of_lt (length_lt_of_number? hr)
  · obtain ⟨⟨n, r⟩, hr, he⟩ := Option.map_eq_some_iff.1 h
    simp only [Prod.mk.injEq] at he
    exact he.2 ▸ length_le_of_cut hr
  · obtain ⟨⟨n, r⟩, hr, he⟩ := Option.bind_eq_some_iff.1 h
    obtain ⟨⟨front, s⟩, hs, he⟩ := Option.map_eq_some_iff.1 he
    simp only [Prod.mk.injEq] at he
    exact he.2 ▸ Nat.le_trans (length_le_of_cut hs) (Nat.le_of_lt (length_lt_of_number? hr))
  · simp_all
  · simp_all
  · obtain ⟨⟨n, r⟩, hr, he⟩ := Option.map_eq_some_iff.1 h
    simp only [Prod.mk.injEq] at he
    exact he.2 ▸ length_le_of_cut hr
  · cases h

/-- A piece takes at least one byte. -/
theorem length_lt_of_piece? {bytes rest : List UInt8} {p : Piece}
    (h : piece? bytes = some (p, rest)) : rest.length < bytes.length := by
  obtain ⟨⟨key, r⟩, hk, h⟩ := Option.bind_eq_some_iff.1 h
  simp only at h
  split at h
  · obtain ⟨⟨q, s⟩, hq, he⟩ := Option.map_eq_some_iff.1 h
    simp only [Prod.mk.injEq] at he
    exact he.2 ▸ Nat.lt_of_le_of_lt (length_le_of_payload? hq) (length_lt_of_number? hk)
  · cases h

/-- The pieces of a list of bytes, after those that are already `done`, the latest first. -/
def piecesAfter (done : List Piece) (bytes : List UInt8) : Option (List Piece) :=
  if bytes.isEmpty then some done.reverse
  else match _h : piece? bytes with
    | some (p, rest) => piecesAfter (p :: done) rest
    | none => none
termination_by bytes.length
decreasing_by exact length_lt_of_piece? ‹_›

/-- The pieces that a list of bytes consists of. -/
def pieces (bytes : List UInt8) : Option (List Piece) :=
  piecesAfter [] bytes

end ServiceCli.Wire
