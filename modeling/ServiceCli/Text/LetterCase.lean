import ServiceCli.Text.LetterCase.Table

/-!
# Letter case

`capital` and `small` map one character to its capital and to its small form, which may be
several characters; both extend the ASCII letters by the tables of the Unicode character
database. `lowered` maps a whole text. It differs from mapping the characters one by one in one
place only: a capital sigma that ends a word becomes the final sigma (`endsWord`).
-/

namespace ServiceCli.Text

/-- The distance by which the code point `n` moves under `runs`. -/
def shiftIn (runs : List CaseRun) (n : Nat) : Option Int :=
  (runs.find? fun r => decide (r.1 ≤ n) && decide (n ≤ r.2.1) && (n - r.1) % r.2.2.1 == 0).map
    fun r => r.2.2.2

/-- The character that `runs` maps `c` to, which is `c` itself outside all of them. -/
def mapChar (runs : List CaseRun) (c : Char) : Char :=
  match shiftIn runs c.toNat with
  | some d => Char.ofNat ((c.toNat : Int) + d).toNat
  | none => c

/-- The capital of `c`, one character or more. -/
def capital (c : Char) : List Char :=
  if c.toNat < 0x80 then [c.toUpper]
  else
    match upperMany.lookup c.toNat with
    | some cs => cs.map Char.ofNat
    | none => [mapChar upperRuns c]

/-- The small form of `c`. Only the dotted capital i has two characters. -/
def small (c : Char) : List Char :=
  if c.toNat < 0x80 then [c.toLower]
  else if c.toNat = 0x130 then ['i', Char.ofNat 0x307]
  else [mapChar lowerRuns c]

/-- Whether `c` is a letter of a script with case. -/
def isCased (c : Char) : Bool :=
  if c.toNat < 0x80 then c.isAlpha else inSpans casedSpans c

/-- Whether `c` is looked past when the end of a word is sought. -/
def isCaseIgnorable (c : Char) : Bool :=
  if c.toNat < 0x80 then [0x27, 0x2E, 0x3A, 0x5E, 0x60].contains c.toNat
  else inSpans ignorableSpans c

/-- Whether the first character of `cs` that is not looked past is a cased letter. -/
def leadsToCased (cs : List Char) : Bool :=
  match cs.dropWhile isCaseIgnorable with
  | c :: _ => isCased c
  | [] => false

/-- Whether a letter ends a word: a cased letter stands before it and none after it. The text
before it is given from its end. -/
def endsWord (before after : List Char) : Bool :=
  leadsToCased before && !leadsToCased after

/-- The small form of a text whose earlier part, from its end, is `before`. -/
def loweredAfter : List Char → List Char → List Char
  | _, [] => []
  | before, c :: cs =>
    (if c = 'Σ' then [if endsWord before cs then 'ς' else 'σ'] else small c)
      ++ loweredAfter (c :: before) cs

/-- A text in small letters. -/
def lowered (s : String) : String :=
  String.ofList (loweredAfter [] s.toList)

/-- A text with its first character in capital form. -/
def capitalized (s : String) : String :=
  match s.toList with
  | [] => ""
  | c :: cs => String.ofList (capital c ++ cs)

@[simp] theorem lowered_empty : lowered "" = "" := rfl

theorem toList_lowered (s : String) : (lowered s).toList = loweredAfter [] s.toList :=
  String.toList_ofList

/-- On ASCII letters and everything else below U+0080 the whole-text map works character by
character. -/
theorem loweredAfter_ascii : ∀ (before cs : List Char), (∀ c ∈ cs, c.toNat < 0x80) →
    loweredAfter before cs = cs.map Char.toLower
  | _, [], _ => rfl
  | before, c :: cs, h => by
    have hc : c.toNat < 0x80 := h c (by simp)
    have hs : c ≠ 'Σ' := by
      rintro rfl
      exact absurd hc (by decide)
    have ih := loweredAfter_ascii (c :: before) cs fun d hd => h d (by simp [hd])
    simp [loweredAfter, hs, small, hc, ih]

end ServiceCli.Text
