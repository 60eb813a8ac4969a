import Mathlib
import ServiceCli.Proofs.Command.Assembled

/-!
# Names in camel case

A text is in camel case if it starts neither with an underscore nor with a small letter, and if no
small letter stands directly behind an underscore or a digit (`IsCamel`). Whatever `camel` makes is
in camel case, and `camel` leaves alone exactly what is (`camel_eq_self_iff`). No character that Go
refuses is put in or left out, so the name is one in Go exactly if the text was
(`isIdentifier_camel`), and then it starts with a capital.
-/

namespace ServiceCli

open Command

/-- The character is an underscore or a digit of ASCII. -/
def IsBreak (c : Char) : Prop :=
  c = '_' ∨ c.isDigit

/-- The character `d` may stand directly behind `c` in camel case. -/
def MayFollow (c d : Char) : Prop :=
  IsBreak c → d.isLower = false

/-- A text in camel case. -/
structure IsCamel (cs : List Char) : Prop where
  start : ∀ c ∈ cs.head?, c ≠ '_' ∧ c.isLower = false
  follow : cs.IsChain MayFollow

/-! ## Capitals -/

section Capitals

variable {c : Char}

theorem not_isBreak_of_isAlpha (h : c.isAlpha) : ¬IsBreak c := by
  rintro (rfl | hdigit)
  · exact absurd h (by decide)
  · simp only [Char.isAlpha, Char.isUpper, Char.isLower, Char.isDigit, Bool.or_eq_true,
      Bool.and_eq_true, decide_eq_true_eq, ge_iff_le, UInt32.le_iff_toNat_le] at h hdigit
    simp at h hdigit
    omega

/-- A character that is not its own capital is a letter, and so is its capital. -/
theorem toUpper_eq_or_isAlpha (c : Char) :
    c.toUpper = c ∨ c.isAlpha ∧ c.toUpper.isAlpha := by
  by_cases h : c.isLower
  · have halpha : c.isAlpha := by rw [Char.isAlpha, h, Bool.or_true]
    exact Or.inr ⟨halpha, (Char.isAlpha_toUpper_eq_isAlpha c).trans halpha⟩
  · exact Or.inl (Char.toUpper_eq_of_not_isLower h)

theorem isBreak_toUpper_iff : IsBreak c.toUpper ↔ IsBreak c := by
  rcases toUpper_eq_or_isAlpha c with h | ⟨h, hupper⟩
  · rw [h]
  · exact iff_of_false (not_isBreak_of_isAlpha hupper) (not_isBreak_of_isAlpha h)

theorem isIdentifierStart_toUpper (c : Char) :
    isIdentifierStart c.toUpper = isIdentifierStart c := by
  rcases toUpper_eq_or_isAlpha c with h | ⟨h, hupper⟩
  · rw [h]
  · simp [isIdentifierStart, h, hupper]

theorem isIdentifierPart_toUpper (c : Char) : isIdentifierPart c.toUpper = isIdentifierPart c := by
  rcases toUpper_eq_or_isAlpha c with h | ⟨h, hupper⟩
  · rw [h]
  · simp [isIdentifierPart, Char.isAlphanum, h, hupper]

end Capitals

/-! ## The characters behind the start -/

section Chars

variable {up : Bool} {cs : List Char} {e : Char}

/-- An underscore comes first only where one was. -/
theorem head?_of_underscore (h : '_' ∈ (camelChars up cs).head?) : cs.head? = some '_' := by
  fun_induction camelChars up cs with
  | case1 => cases h
  | case2 | case3 => rfl
  | case4 up c cs => simpa using h
  | case5 up c cs =>
    have hc := Option.some.inj h
    split at hc
    · rcases toUpper_eq_or_isAlpha c with hsame | ⟨-, hupper⟩
      · rw [List.head?_cons, ← hsame, hc]
      · exact absurd hupper (by simp [hc])
    · rw [List.head?_cons, hc]

/-- A small letter comes first only where it was and no capital is due. -/
theorem head?_of_isLower (he : e.isLower) (h : e ∈ (camelChars up cs).head?) :
    up = false ∧ cs.head? = some e := by
  fun_induction camelChars up cs with
  | case1 => cases h
  | case2 up d cs hd ih => exact nomatch (ih h).1
  | case3 up d cs =>
    obtain rfl := Option.some.inj h
    exact absurd he (by decide)
  | case4 up c cs _ hc =>
    obtain rfl := Option.some.inj h
    exact absurd (Or.inr hc) (not_isBreak_of_isAlpha (by rw [Char.isAlpha, he, Bool.or_true]))
  | case5 up c cs =>
    cases up with
    | false => exact ⟨rfl, h⟩
    | true =>
      obtain rfl := Option.some.inj h
      exact absurd he (by simp)

theorem isChain_camelChars (up : Bool) (cs : List Char) :
    (camelChars up cs).IsChain MayFollow := by
  fun_induction camelChars up cs with
  | case1 => exact .nil
  | case2 up d cs hd ih => exact ih
  | case3 up d cs hd ih =>
    refine List.isChain_cons.2 ⟨fun e he _ => ?_, ih⟩
    by_contra hlower
    obtain ⟨-, hsome⟩ := head?_of_isLower (by simpa using hlower) he
    obtain rfl := Option.some.inj hsome
    exact hlower (by simpa using hd)
  | case4 up c cs _ hc ih =>
    refine List.isChain_cons.2 ⟨fun e he _ => ?_, ih⟩
    by_contra hlower
    exact nomatch (head?_of_isLower (by simpa using hlower) he).1
  | case5 up c cs hlast hc ih =>
    refine List.isChain_cons.2 ⟨fun e he hbreak => ?_, ih⟩
    have hunderscore : c = '_' := by
      have hcbreak : IsBreak c := by
        cases up with
        | false => exact hbreak
        | true => exact isBreak_toUpper_iff.1 hbreak
      exact hcbreak.resolve_right hc
    cases cs with
    | nil => cases he
    | cons d cs => exact absurd rfl (hlast d cs hunderscore)

/-- What is in camel case stays. -/
theorem camelChars_of_isChain (hfollow : cs.IsChain MayFollow)
    (hup : up → ∀ c ∈ cs.head?, c.isLower = false) : camelChars up cs = cs := by
  fun_induction camelChars up cs with
  | case1 => rfl
  | case2 up d cs hd =>
    have hlower : d.isLower = false := (List.isChain_cons.1 hfollow).1 d rfl (Or.inl rfl)
    exact absurd hd (by simp [hlower])
  | case3 up d cs hd ih => rw [ih (List.isChain_cons.1 hfollow).2 nofun]
  | case4 up c cs _ hc ih =>
    obtain ⟨hnext, hrest⟩ := List.isChain_cons.1 hfollow
    rw [ih hrest fun _ d hd => hnext d hd (Or.inr hc)]
  | case5 up c cs _ _ ih =>
    rw [ih (List.isChain_cons.1 hfollow).2 nofun]
    split
    · next hcap => rw [Char.toUpper_eq_of_not_isLower (by simp [hup hcap c rfl])]
    · rfl

theorem all_isIdentifierPart_camelChars (up : Bool) (cs : List Char) :
    (camelChars up cs).all isIdentifierPart = cs.all isIdentifierPart := by
  fun_induction camelChars up cs with
  | case1 => rfl
  | case2 up d cs hd ih =>
    rw [ih, List.all_cons (a := '_')]
    rfl
  | case3 up d cs hd ih => rw [List.all_cons, ih, List.all_cons (a := '_')]
  | case4 up c cs _ hc ih => rw [List.all_cons, ih, List.all_cons]
  | case5 up c cs _ hc ih =>
    rw [List.all_cons, ih, List.all_cons]
    split
    · rw [isIdentifierPart_toUpper]
    · rfl

/-- A text that does not start with an underscore keeps its first character, but for its case. -/
theorem camelChars_cons {c : Char} (hc : c ≠ '_') (cs : List Char) :
    camelChars true (c :: cs) =
      if c.isDigit then c :: camelChars true cs else c.toUpper :: camelChars false cs := by
  rw [camelChars]
  · rfl
  · exact fun _ _ h _ => absurd h hc

end Chars

/-! ## Names -/

section Names

variable {name : String}

theorem camel_of_underscore {cs : List Char} (h : name.toList = '_' :: cs) :
    (camel name).toList = 'X' :: camelChars true cs := by
  rw [camel, h]
  exact String.toList_ofList

theorem camel_of_ne_underscore (h : name.toList.head? ≠ some '_') :
    (camel name).toList = camelChars true name.toList := by
  unfold camel
  split
  · next cs hcs => exact absurd (congrArg List.head? hcs) h
  · exact String.toList_ofList

/-- Every text gets a name in camel case. -/
theorem isCamel_camel (name : String) : IsCamel (camel name).toList := by
  by_cases h : name.toList.head? = some '_'
  · obtain ⟨cs, hcs⟩ := List.head?_eq_some_iff.1 h
    rw [camel_of_underscore hcs]
    exact { start := by simp
            follow := List.isChain_cons.2
              ⟨fun _ _ hX => absurd hX (by simp [IsBreak]), isChain_camelChars true cs⟩ }
  · rw [camel_of_ne_underscore h]
    refine ⟨fun c hc => ⟨?_, ?_⟩, isChain_camelChars true _⟩
    · rintro rfl
      exact h (head?_of_underscore hc)
    · by_contra hlower
      exact nomatch (head?_of_isLower (by simpa using hlower) hc).1

/-- Exactly the texts in camel case stay as they are. -/
theorem camel_eq_self_iff : camel name = name ↔ IsCamel name.toList := by
  constructor
  · intro h
    rw [← h]
    exact isCamel_camel name
  · intro h
    have hhead : name.toList.head? ≠ some '_' := fun hunderscore => (h.start '_' hunderscore).1 rfl
    rw [← String.toList_inj, camel_of_ne_underscore hhead]
    exact camelChars_of_isChain h.follow fun _ c hc => (h.start c hc).2

theorem isIdentifier_of_cons {c : Char} {cs : List Char} (h : name.toList = c :: cs) :
    isIdentifier name = (isIdentifierStart c && cs.all isIdentifierPart) := by
  rw [isIdentifier, h]

/-- A text becomes a name in Go exactly if it is one. -/
theorem isIdentifier_camel (name : String) : isIdentifier (camel name) = isIdentifier name := by
  cases hname : name.toList with
  | nil =>
    obtain rfl := String.toList_eq_nil_iff.1 hname
    rfl
  | cons c cs =>
    by_cases hc : c = '_'
    · subst hc
      rw [isIdentifier_of_cons hname, isIdentifier_of_cons (camel_of_underscore hname),
        all_isIdentifierPart_camelChars]
      rfl
    · have hcamel : (camel name).toList = camelChars true (c :: cs) := by
        rw [camel_of_ne_underscore (by simpa [hname] using hc), hname]
      rw [camelChars_cons hc] at hcamel
      split at hcamel
      · rw [isIdentifier_of_cons hname, isIdentifier_of_cons hcamel,
          all_isIdentifierPart_camelChars]
      · rw [isIdentifier_of_cons hname, isIdentifier_of_cons hcamel,
          all_isIdentifierPart_camelChars, isIdentifierStart_toUpper]

/-- A name in Go starts with a capital, so it is visible outside its package. -/
theorem exists_isUpper_of_isIdentifier (h : isIdentifier name) :
    ∃ c cs, (camel name).toList = c :: cs ∧ c.isUpper := by
  rw [← isIdentifier_camel] at h
  cases hcamel : (camel name).toList with
  | nil => simp [isIdentifier, hcamel] at h
  | cons c cs =>
    obtain ⟨hne, hlower⟩ := (isCamel_camel name).start c (by rw [hcamel]; rfl)
    rw [isIdentifier_of_cons hcamel, Bool.and_eq_true] at h
    refine ⟨c, cs, rfl, ?_⟩
    simpa [isIdentifierStart, Char.isAlpha, hne, hlower] using h.1

/-- Go can use the name that is made of a text exactly if the text is a name itself. -/
theorem isUsable_iff : IsUsable name ↔ isIdentifier name := by
  rw [IsUsable, isIdentifier_camel, and_iff_right_iff_imp]
  rintro h rfl
  exact absurd h (by decide)

end Names

/-- What is made of a text is a name in Go exactly if the text is one, and these are the texts that
are accepted for services and methods. Such a name starts with a capital. Whatever the text is, no
small letter stands directly behind an underscore or a digit in the result, and the result stays as
it is when it is put into camel case again. -/
theorem camel_normalises (name : String) :
    (isIdentifier (camel name) ↔ isIdentifier name) ∧
    (∀ what parent s, goName what parent name = .ok s ↔ isIdentifier name ∧ s = camel name) ∧
    (isIdentifier name → ∃ c cs, (camel name).toList = c :: cs ∧ c.isUpper) ∧
    (∀ before c d after, (camel name).toList = before ++ c :: d :: after →
      c = '_' ∨ c.isDigit → d.isLower = false) ∧
    camel (camel name) = camel name := by
  refine ⟨by rw [isIdentifier_camel], fun what parent s => ?_, exists_isUpper_of_isIdentifier,
    fun before c d after h hbreak => ?_, camel_eq_self_iff.2 (isCamel_camel name)⟩
  · rw [goName_eq_ok_iff, isUsable_iff]
  · have hfollow := (isCamel_camel name).follow
    rw [h, List.isChain_append_cons_cons] at hfollow
    exact hfollow.2.1 hbreak

theorem camel_normalises_page :
    isIdentifier "_get2nd__page_" ∧ camel "_get2nd__page_" = "XGet2Nd_Page_" ∧
      (∃ c cs, "XGet2Nd_Page_".toList = c :: cs ∧ c.isUpper) ∧
      "XGet2Nd_Page_".toList = "XGet".toList ++ '2' :: 'N' :: "d_Page_".toList ∧
      'N'.isLower = false ∧ camel "XGet2Nd_Page_" = "XGet2Nd_Page_" := by
  have hname : isIdentifier "_get2nd__page_" := by decide
  have hcamel : camel "_get2nd__page_" = "XGet2Nd_Page_" := by decide
  have hsplit : "XGet2Nd_Page_".toList = "XGet".toList ++ '2' :: 'N' :: "d_Page_".toList := by decide
  obtain ⟨-, -, hupper, hbehind, hagain⟩ := camel_normalises "_get2nd__page_"
  rw [hcamel] at hupper hbehind hagain
  exact ⟨hname, hcamel, hupper hname, hsplit, hbehind _ _ _ _ hsplit (Or.inr (by decide)), hagain⟩

end ServiceCli
