import ServiceCli.Text.Pieces

/-!
# Filling in a template

`fill` reads a template from left to right. At each dollar sign it puts in the value of the
first token that stands there, and goes on behind the token, so a value is never read again.
-/

namespace ServiceCli.GoText

open Text

/-- A token of a template, with what is put in for it. -/
abbrev Token := List Char × List Char

/-- The value of the first token that stands at the start of `cs`, and what follows the token.
An empty token stands nowhere. -/
def tokenAt (tokens : List Token) (cs : List Char) : Option (List Char × List Char) :=
  tokens.findSome? fun t =>
    match after? t.1 cs with
    | some rest => if t.1.isEmpty then none else some (t.2, rest)
    | none => none

theorem length_lt_of_tokenAt {tokens : List Token} {cs value rest : List Char}
    (h : tokenAt tokens cs = some (value, rest)) : rest.length < cs.length := by
  obtain ⟨t, -, ht⟩ := List.exists_of_findSome?_eq_some h
  split at ht
  · next r hr =>
    split at ht
    · cases ht
    · next hne =>
      obtain ⟨rfl, rfl⟩ : t.2 = value ∧ r = rest := by simpa using ht
      rw [after?_eq_some_iff] at hr
      have : t.1 ≠ [] := by simpa using hne
      have := List.length_pos_iff.2 this
      rw [hr, List.length_append]
      omega
  · cases ht

/-- The characters of a template with its tokens filled in. -/
def fillChars (tokens : List Token) : List Char → List Char
  | [] => []
  | c :: cs =>
    if c = '$' then
      match _h : tokenAt tokens (c :: cs) with
      | some (value, rest) => value ++ fillChars tokens rest
      | none => c :: fillChars tokens cs
    else c :: fillChars tokens cs
termination_by cs => cs.length
decreasing_by
  · exact length_lt_of_tokenAt _h
  · simp
  · simp

/-- A template with its tokens filled in. -/
def fill (template : String) (tokens : List (String × String)) : String :=
  String.ofList (fillChars (tokens.map fun t => (t.1.toList, t.2.toList)) template.toList)

end ServiceCli.GoText
