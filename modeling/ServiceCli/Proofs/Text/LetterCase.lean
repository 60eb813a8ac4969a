import ServiceCli.Text.LetterCase

/-!
# What small letters leave alone

A sign or a digit of ASCII is the small form of no other character (`eq_of_mem_small`), so one that
is not in a text is not in its small form either (`notMem_lowered`).
-/

namespace ServiceCli.Text

/-- The character is a sign or a digit that comes before the letters in ASCII. -/
def IsSign (c : Char) : Prop :=
  0x20 ≤ c.toNat ∧ c.toNat < 0x41

instance (c : Char) : Decidable (IsSign c) :=
  inferInstanceAs (Decidable (_ ∧ _))

/-- All runs lead to letters, or beyond them. -/
theorem le_of_mem_lowerRuns : ∀ r ∈ lowerRuns, (0x41 : Int) ≤ r.1 + r.2.2.2 := by
  decide +kernel

/-- The character for a number has this number, unless there is none. -/
theorem toNat_ofNat_cases (n : Nat) : (Char.ofNat n).toNat = n ∨ (Char.ofNat n).toNat = 0 := by
  by_cases h : n.isValidChar
  · exact Or.inl (by rw [Char.ofNat, dif_pos h]; rfl)
  · exact Or.inr (by rw [Char.ofNat, dif_neg h]; rfl)

theorem mapChar_lowerRuns_ne {c sign : Char} (hc : 0x80 ≤ c.toNat) (hsign : IsSign sign) :
    mapChar lowerRuns c ≠ sign := by
  obtain ⟨hlow, hhigh⟩ := hsign
  rintro rfl
  unfold mapChar at hlow hhigh
  cases hshift : shiftIn lowerRuns c.toNat with
  | none =>
    rw [hshift] at hhigh
    dsimp only at hhigh
    omega
  | some d =>
    obtain ⟨r, hrun, rfl⟩ := Option.map_eq_some_iff.1 hshift
    have hbound := le_of_mem_lowerRuns r (List.mem_of_find?_eq_some hrun)
    have hstart : r.1 ≤ c.toNat := by
      have hfound := List.find?_some hrun
      simp only [Bool.and_eq_true, decide_eq_true_eq] at hfound
      exact hfound.1.1
    rw [hshift] at hlow hhigh
    dsimp only at hlow hhigh
    rcases toNat_ofNat_cases ((c.toNat : Int) + r.2.2.2).toNat with h | h <;>
      rw [h] at hlow hhigh <;> omega

/-- The small form of an ASCII character is the character itself or a letter. -/
theorem toLower_eq_or_le {c : Char} (hc : c.toNat < 0x80) :
    c.toLower = c ∨ 0x41 ≤ c.toLower.toNat := by
  have hascii : ∀ n < 0x80,
      (Char.ofNat n).toLower = Char.ofNat n ∨ 0x41 ≤ (Char.ofNat n).toLower.toNat := by
    decide
  have hlower := hascii c.toNat hc
  rwa [Char.ofNat_toNat] at hlower

/-- A sign stands in the small form of no other character. -/
theorem eq_of_mem_small {c sign : Char} (hsign : IsSign sign) (h : sign ∈ small c) : sign = c := by
  unfold small at h
  split at h
  · next hc =>
    obtain rfl := List.mem_singleton.1 h
    rcases toLower_eq_or_le hc with hsame | hletter
    · exact hsame
    · exact absurd hsign.2 (Nat.not_lt.2 hletter)
  · next hc =>
    split at h
    · -- Both characters of the dotted capital i are beyond the signs.
      have hbeyond : ∀ d ∈ ['i', Char.ofNat 0x307], ¬IsSign d := by simp [IsSign]
      exact absurd hsign (hbeyond _ h)
    · exact absurd (List.mem_singleton.1 h).symm (mapChar_lowerRuns_ne (by omega) hsign)

theorem notMem_loweredAfter {sign : Char} (hsign : IsSign sign) :
    ∀ {before cs : List Char}, sign ∉ cs → sign ∉ loweredAfter before cs
  | _, [], _ => List.not_mem_nil
  | before, c :: cs, h => by
    rw [List.mem_cons, not_or] at h
    rw [loweredAfter, List.mem_append, not_or]
    refine ⟨fun hmem => ?_, notMem_loweredAfter hsign h.2⟩
    split at hmem
    · have hsigma : ∀ d ∈ ['ς', 'σ'], ¬IsSign d := by simp [IsSign]
      exact hsigma sign (by split at hmem <;> simp_all) hsign
    · exact h.1 (eq_of_mem_small hsign hmem)

/-- A sign that is not in a text is not in its small form. -/
theorem notMem_lowered {sign : Char} (hsign : IsSign sign) {s : String} (h : sign ∉ s.toList) :
    sign ∉ (lowered s).toList := by
  rw [toList_lowered]
  exact notMem_loweredAfter hsign h

end ServiceCli.Text
