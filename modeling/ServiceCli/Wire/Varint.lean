/-!
# Numbers in groups of seven bits

A number is written as a row of bytes, the lowest seven bits first. Every byte but the last one
has its high bit set. A number of 64 bits takes ten bytes at most (`number?`, `numberBytes`).
-/

namespace ServiceCli.Wire

/-- A number of at most `room` bytes at the front of a list, and what follows it. -/
def numberWithin : Nat → List UInt8 → Option (Nat × List UInt8)
  | 0, _ => none
  | _ + 1, [] => none
  | room + 1, b :: bs =>
    if b.toNat < 128 then some (b.toNat, bs)
    else (numberWithin room bs).map fun (n, rest) => (b.toNat - 128 + 128 * n, rest)

/-- A number of 64 bits at the front of a list, and what follows it. -/
def number? (bytes : List UInt8) : Option (Nat × List UInt8) :=
  (numberWithin 10 bytes).filter fun (n, _) => decide (n < UInt64.size)

/-- The bytes of a number. -/
def numberBytes (n : Nat) : List UInt8 :=
  if n < 128 then [UInt8.ofNat n]
  else UInt8.ofNat (n % 128 + 128) :: numberBytes (n / 128)

/-- Reading a number takes at least one byte. -/
theorem length_lt_of_numberWithin {room : Nat} {bytes rest : List UInt8} {n : Nat}
    (h : numberWithin room bytes = some (n, rest)) : rest.length < bytes.length := by
  induction room generalizing bytes n with
  | zero => simp [numberWithin] at h
  | succ room ih =>
    cases bytes with
    | nil => simp [numberWithin] at h
    | cons b bs =>
      rw [numberWithin] at h
      split at h
      · simp_all
      · obtain ⟨⟨m, r⟩, hm, he⟩ := Option.map_eq_some_iff.1 h
        simp only [Prod.mk.injEq] at he
        have := ih (he.2 ▸ hm)
        simp only [List.length_cons]
        omega

theorem length_lt_of_number? {bytes rest : List UInt8} {n : Nat}
    (h : number? bytes = some (n, rest)) : rest.length < bytes.length :=
  length_lt_of_numberWithin (Option.filter_eq_some_iff.1 h).1

/-- What is written for a number of few enough bits is read back, whatever follows it. -/
theorem numberWithin_numberBytes (room n : Nat) (rest : List UInt8)
    (h : n < Nat.pow 128 (room + 1)) :
    numberWithin (room + 1) (numberBytes n ++ rest) = some (n, rest) := by
  induction room generalizing n with
  | zero =>
    have hn : n < 128 := by simpa using h
    have hb : (UInt8.ofNat n).toNat = n := by
      simp only [UInt8.toNat_ofNat']
      omega
    rw [numberBytes, if_pos hn]
    simp [numberWithin, hb, hn]
  | succ room ih =>
    rw [numberBytes]
    split
    · next hn =>
      have hb : (UInt8.ofNat n).toNat = n := by
        simp only [UInt8.toNat_ofNat']
        omega
      simp [numberWithin, hb, hn]
    · next hn =>
      have hb : (UInt8.ofNat (n % 128 + 128)).toNat = n % 128 + 128 := by
        simp only [UInt8.toNat_ofNat']
        omega
      have hd : n / 128 < Nat.pow 128 (room + 1) := by
        rw [Nat.div_lt_iff_lt_mul (by decide)]
        exact h
      rw [List.cons_append, numberWithin, hb, if_neg (by omega), ih _ hd]
      simp only [Option.map_some, Option.some.injEq, Prod.mk.injEq, and_true]
      omega

end ServiceCli.Wire
