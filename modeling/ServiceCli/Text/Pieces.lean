/-!
# Cutting texts

The ways in which a text is cut at a character: into all its pieces (`pieces`), at the first
occurrence (`cutFirst`), at the last one (`cutLast`), and at its ends (`afterLead`,
`beforeTail`). Nothing but the cut character is lost, which the lemmas say on the characters.
-/

namespace ServiceCli.Text

/-- The pieces of `s` between the occurrences of `sep`, empty ones included. -/
def pieces (sep : Char) (s : String) : List String :=
  (s.toList.splitOn sep).map String.ofList

/-- The texts before and after the first `sep`. -/
def cutFirst (sep : Char) (s : String) : Option (String × String) :=
  match s.toList.dropWhile (· != sep) with
  | [] => none
  | _ :: rest => some (String.ofList (s.toList.takeWhile (· != sep)), String.ofList rest)

/-- The texts before and after the last `sep`. -/
def cutLast (sep : Char) (s : String) : Option (String × String) :=
  match s.toList.reverse.dropWhile (· != sep) with
  | [] => none
  | _ :: rest =>
    some (String.ofList rest.reverse,
      String.ofList (s.toList.reverse.takeWhile (· != sep)).reverse)

/-- The text after the last `sep`, or all of it. -/
def lastPiece (sep : Char) (s : String) : String :=
  match cutLast sep s with
  | some (_, last) => last
  | none => s

/-- What follows `lead` in the list `cs`, if it starts with it. -/
def after? : List Char → List Char → Option (List Char)
  | [], cs => some cs
  | _ :: _, [] => none
  | l :: ls, c :: cs => if l = c then after? ls cs else none

/-- What follows `lead` in `s`, if `s` starts with it. -/
def afterLead (lead s : String) : Option String :=
  (after? lead.toList s.toList).map String.ofList

/-- What precedes `tail` in `s`, if `s` ends with it. -/
def beforeTail (tail s : String) : Option String :=
  (after? tail.toList.reverse s.toList.reverse).map fun cs => String.ofList cs.reverse

/-- `s` without the `tail` at its end, if it has it. -/
def dropTail (tail s : String) : String :=
  (beforeTail tail s).getD s

theorem after?_eq_some_iff {l cs r : List Char} : after? l cs = some r ↔ cs = l ++ r := by
  induction l generalizing cs with
  | nil => simp [after?]
  | cons a l ih =>
    cases cs with
    | nil => simp [after?]
    | cons c cs =>
      by_cases h : a = c
      · subst h
        simp [after?, ih]
      · simp [after?, h, Ne.symm h]

theorem afterLead_eq_some_iff {lead s r : String} : afterLead lead s = some r ↔ s = lead ++ r := by
  rw [afterLead, Option.map_eq_some_iff]
  constructor
  · rintro ⟨cs, h, rfl⟩
    rw [after?_eq_some_iff] at h
    apply String.toList_injective
    simp [h]
  · rintro rfl
    exact ⟨r.toList, after?_eq_some_iff.2 (by simp), by simp⟩

end ServiceCli.Text
