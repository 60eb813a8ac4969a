/-!
# Sets of code points

A character class of the Unicode character database is a list of closed ranges of code points.
`inSpans` asks whether a character is in one of them.
-/

namespace ServiceCli.Text

/-- A closed range of code points: its first and its last. -/
abbrev Span := Nat × Nat

/-- Whether the code point of `c` lies in one of `spans`. -/
def inSpans (spans : List Span) (c : Char) : Bool :=
  spans.any fun s => decide (s.1 ≤ c.toNat) && decide (c.toNat ≤ s.2)

theorem inSpans_iff {spans : List Span} {c : Char} :
    inSpans spans c = true ↔ ∃ s ∈ spans, s.1 ≤ c.toNat ∧ c.toNat ≤ s.2 := by
  simp [inSpans]

end ServiceCli.Text
