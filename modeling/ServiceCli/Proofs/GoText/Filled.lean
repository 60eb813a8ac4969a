import Mathlib.Data.List.Find
import ServiceCli.GoText.Fill
import ServiceCli.GoText.Subcommand

/-!
# What a filled template consists of

A template is a list of parts: characters that stand for themselves and keys of tokens
(`parts`). Which parts these are is found without looking at a value, and a filled template
is the text of its parts one behind the other (`fillChars_eq_flatMap`). Where no key goes over the
end of a line, a template can be filled line by line (`fill_lines`).
-/

namespace ServiceCli.GoText

open Text

/-! ## Parts -/

/-- A part of a template: a character that stands for itself, or the key of a token. -/
inductive Part where
  | char (c : Char)
  | key (key : List Char)
  deriving DecidableEq, Repr

/-- What a part becomes when the tokens are filled in. -/
def Part.text (tokens : List Token) : Part → List Char
  | char c => [c]
  | key k => (tokens.lookup k).getD []

/-- The first of the keys that stands at the start of `cs`. -/
def keyAt (keys : List (List Char)) (cs : List Char) : Option (List Char) :=
  keys.find? fun key => key ≠ [] ∧ key <+: cs

/-- The parts of a template behind its first `skip` characters. -/
def partsAfter (keys : List (List Char)) : Nat → List Char → List Part
  | _, [] => []
  | skip + 1, _ :: cs => partsAfter keys skip cs
  | 0, c :: cs =>
    if c = '$' then
      match keyAt keys (c :: cs) with
      | some key => .key key :: partsAfter keys (key.length - 1) cs
      | none => .char c :: partsAfter keys 0 cs
    else .char c :: partsAfter keys 0 cs

/-- The parts of a template. -/
def parts (keys : List (List Char)) (cs : List Char) : List Part :=
  partsAfter keys 0 cs

variable {keys : List (List Char)} {tokens : List Token}

theorem keyAt_eq_some {cs key : List Char} (h : keyAt keys cs = some key) :
    key ∈ keys ∧ key ≠ [] ∧ key <+: cs := by
  have hkey := List.find?_some h
  exact ⟨List.mem_of_find?_eq_some h, by simpa using hkey⟩

theorem partsAfter_eq_parts_drop :
    ∀ (skip : Nat) (cs : List Char), partsAfter keys skip cs = parts keys (cs.drop skip)
  | 0, _ => rfl
  | _ + 1, [] => rfl
  | skip + 1, _ :: cs => partsAfter_eq_parts_drop skip cs

theorem parts_key {cs key : List Char} (h : keyAt keys ('$' :: cs) = some key) :
    parts keys ('$' :: cs) = .key key :: parts keys (('$' :: cs).drop key.length) := by
  obtain ⟨-, hne, -⟩ := keyAt_eq_some h
  obtain ⟨k, key, rfl⟩ := List.exists_cons_of_ne_nil hne
  rw [parts, partsAfter, if_pos rfl, h]
  exact congrArg _ (partsAfter_eq_parts_drop _ _)

theorem parts_char {c : Char} {cs : List Char} (h : c = '$' → keyAt keys (c :: cs) = none) :
    parts keys (c :: cs) = .char c :: parts keys cs := by
  rw [parts, partsAfter]
  split
  · next hc =>
    rw [h hc]
    rfl
  · rfl

/-- The token that stands at the start of a text is the first of its key. -/
theorem tokenAt_eq_map_keyAt (cs : List Char) :
    ∀ tokens : List Token, tokenAt tokens cs =
      (keyAt (tokens.map Prod.fst) cs).map fun key =>
        (Part.text tokens (.key key), cs.drop key.length)
  | [] => rfl
  | (k, value) :: tokens => by
    by_cases hk : k ≠ [] ∧ k <+: cs
    · have hkey : keyAt (((k, value) :: tokens).map Prod.fst) cs = some k :=
        List.find?_cons_of_pos (by simpa using hk)
      obtain ⟨hne, rest, rfl⟩ := hk
      rw [hkey, tokenAt, List.findSome?_cons, after?_eq_some_iff.2 rfl]
      simp [Part.text, hne]
    · have hkey : keyAt (((k, value) :: tokens).map Prod.fst) cs = keyAt (tokens.map Prod.fst) cs :=
        List.find?_cons_of_neg (by simpa using hk)
      have htoken : tokenAt ((k, value) :: tokens) cs = tokenAt tokens cs := by
        rw [tokenAt, List.findSome?_cons]
        cases hafter : after? k cs with
        | none => rfl
        | some rest =>
          have hlead : k <+: cs := ⟨rest, (after?_eq_some_iff.1 hafter).symm⟩
          have hnil : k = [] := by simpa [hlead] using hk
          simp [hnil, tokenAt]
      rw [htoken, hkey, tokenAt_eq_map_keyAt cs tokens]
      refine Option.map_congr fun key hsome => ?_
      obtain ⟨-, hne, hlead⟩ := keyAt_eq_some hsome
      have hdiffer : key ≠ k := by
        rintro rfl
        exact hk ⟨hne, hlead⟩
      rw [Part.text, Part.text, List.lookup_cons, beq_false_of_ne hdiffer]

/-- A filled template is made of the texts of its parts. -/
theorem fillChars_eq_flatMap (cs : List Char) :
    fillChars tokens cs = (parts (tokens.map Prod.fst) cs).flatMap (Part.text tokens) := by
  fun_induction fillChars tokens cs with
  | case1 => rfl
  | case2 cs value rest htoken ih =>
    rw [tokenAt_eq_map_keyAt, Option.map_eq_some_iff] at htoken
    obtain ⟨key, hkey, htext⟩ := htoken
    obtain ⟨rfl, rfl⟩ := Prod.mk.inj htext
    rw [parts_key hkey, List.flatMap_cons, ih]
  | case3 cs htoken ih =>
    rw [tokenAt_eq_map_keyAt, Option.map_eq_none_iff] at htoken
    rw [parts_char fun _ => htoken, List.flatMap_cons, ih]
    rfl
  | case4 c cs hc ih =>
    rw [parts_char fun h => absurd h hc, List.flatMap_cons, ih]
    rfl

theorem flatMap_text_map_char (cs : List Char) :
    (cs.map Part.char).flatMap (Part.text tokens) = cs := by
  rw [List.flatMap_map]
  exact List.flatMap_singleton' cs

/-! ## Lines -/

theorem keyAt_newline (h : ∀ key ∈ keys, '\n' ∉ key) (cs rest : List Char) :
    keyAt keys (cs ++ '\n' :: rest) = keyAt keys cs := by
  refine List.find?_congr fun key hkey => decide_eq_decide.2 (and_congr_right fun _ => ?_)
  constructor
  · rintro ⟨after, hafter⟩
    rcases List.append_eq_append_iff.1 hafter with ⟨as, rfl, -⟩ | ⟨bs, rfl, hbs⟩
    · exact List.prefix_append _ _
    · cases bs with
      | nil => simp
      | cons b bs =>
        obtain ⟨rfl, -⟩ := List.cons.inj hbs
        exact absurd (by simp) (h _ hkey)
  · exact fun hcs => hcs.trans (List.prefix_append _ _)

theorem partsAfter_newline (h : ∀ key ∈ keys, '\n' ∉ key) (rest : List Char) :
    ∀ {skip : Nat} {cs : List Char}, skip ≤ cs.length →
      partsAfter keys skip (cs ++ '\n' :: rest)
        = partsAfter keys skip cs ++ .char '\n' :: parts keys rest
  | 0, [], _ => parts_char fun hc => absurd hc (by decide)
  | skip + 1, c :: cs, hskip => by
    rw [List.length_cons, Nat.add_le_add_iff_right] at hskip
    rw [List.cons_append, partsAfter, partsAfter, partsAfter_newline h rest hskip]
  | 0, c :: cs, _ => by
    rw [List.cons_append, partsAfter, partsAfter, ← List.cons_append, keyAt_newline h]
    have hzero := partsAfter_newline h rest (Nat.zero_le cs.length)
    split
    · cases hkey : keyAt keys (c :: cs) with
      | none => exact congrArg (Part.char c :: ·) hzero
      | some key =>
        obtain ⟨-, -, hlead⟩ := keyAt_eq_some hkey
        have hlength : key.length - 1 ≤ cs.length := by
          have := hlead.length_le
          rw [List.length_cons] at this
          omega
        exact congrArg (Part.key key :: ·) (partsAfter_newline h rest hlength)
    · exact congrArg (Part.char c :: ·) hzero

theorem fillChars_newline (h : ∀ t ∈ tokens, '\n' ∉ t.1) (cs rest : List Char) :
    fillChars tokens (cs ++ '\n' :: rest)
      = fillChars tokens cs ++ '\n' :: fillChars tokens rest := by
  have hkeys : ∀ key ∈ tokens.map Prod.fst, '\n' ∉ key := by simpa using h
  rw [fillChars_eq_flatMap, parts, partsAfter_newline hkeys _ (Nat.zero_le _), List.flatMap_append,
    List.flatMap_cons, fillChars_eq_flatMap, fillChars_eq_flatMap]
  rfl

theorem lines_cons (l : String) (ls : List String) : lines (l :: ls) = l ++ "\n" ++ lines ls := by
  simp [lines]

/-- A template is filled line by line. -/
theorem fill_lines {tokens : List (String × String)} (h : ∀ t ∈ tokens, '\n' ∉ t.1.toList)
    (ls : List String) : fill (lines ls) tokens = lines (ls.map fun l => fill l tokens) := by
  have hkeys : ∀ t ∈ tokens.map fun t => (t.1.toList, t.2.toList), '\n' ∉ t.1 := by
    simpa only [List.forall_mem_map] using h
  induction ls with
  | nil => simp [lines, fill, fillChars]
  | cons l ls ih =>
    rw [lines_cons, List.map_cons, lines_cons, ← ih, ← String.toList_inj]
    simp only [fill, String.toList_ofList, String.toList_append, List.append_assoc]
    exact fillChars_newline hkeys _ _

/-! ## One token in a line -/

theorem fillChars_append_of_notMem {cs : List Char} (h : '$' ∉ cs) (rest : List Char) :
    fillChars tokens (cs ++ rest) = cs ++ fillChars tokens rest := by
  induction cs with
  | nil => rfl
  | cons c cs ih =>
    rw [List.mem_cons, not_or] at h
    rw [List.cons_append, fillChars, if_neg (Ne.symm h.1), ih h.2, List.cons_append]

theorem fillChars_of_tokenAt {cs value rest : List Char}
    (h : tokenAt tokens ('$' :: cs) = some (value, rest)) :
    fillChars tokens ('$' :: cs) = value ++ fillChars tokens rest := by
  rw [fillChars_eq_flatMap, fillChars_eq_flatMap]
  rw [tokenAt_eq_map_keyAt, Option.map_eq_some_iff] at h
  obtain ⟨key, hkey, htext⟩ := h
  obtain ⟨rfl, rfl⟩ := Prod.mk.inj htext
  rw [parts_key hkey, List.flatMap_cons]

/-- Behind a text without dollar signs, what is put in for a token stands in place of its key. -/
theorem fill_token {tokens : List (String × String)} {before key value : String}
    (h : '$' ∉ before.toList) (hkey : key.toList.head? = some '$')
    (htoken : ∀ cs, tokenAt (tokens.map fun t => (t.1.toList, t.2.toList)) (key.toList ++ cs)
      = some (value.toList, cs)) (rest : String) :
    fill (before ++ key ++ rest) tokens = before ++ value ++ fill rest tokens := by
  obtain ⟨name, hname⟩ := List.head?_eq_some_iff.1 hkey
  have hline : (before ++ key ++ rest).toList = before.toList ++ '$' :: (name ++ rest.toList) := by
    simp [hname]
  have hstart := htoken rest.toList
  rw [hname, List.cons_append] at hstart
  rw [fill, hline, fillChars_append_of_notMem h, fillChars_of_tokenAt hstart, ← String.toList_inj]
  simp [fill]

/-- A line without a dollar sign stays as it is. -/
theorem fill_of_notMem {template : String} (tokens : List (String × String))
    (h : '$' ∉ template.toList) : fill template tokens = template := by
  rw [fill, ← List.append_nil template.toList, fillChars_append_of_notMem h, fillChars,
    List.append_nil, String.ofList_toList]

end ServiceCli.GoText
