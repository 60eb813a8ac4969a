import ServiceCli.Proofs.GoText.Qualifiers

/-!
# Templates that name nothing

A value that is put into a template leaves its surroundings alone if it is read as a whole and has
no dot in code (`Mute`), as names and literals do (`mute_goString`). So whether a name can qualify
anything in a filled template is seen from the template: at each of its dots in code, what is known
of the text in front of it has to differ from the name (`silent`). This is enough whatever the
values are (`not_qualifies_of_silent`).
-/

namespace ServiceCli.GoText

open Text

/-! ## Mute values -/

/-- A text that leads back to code and has no dot in code. -/
structure Mute (cs : List Char) : Prop where
  closed : Spot.code.after cs = .code
  dots : ∀ as bs, cs = as ++ '.' :: bs → (Spot.code.after as).isCode = false

theorem mute_of_isIdentifierPart {cs : List Char} (h : ∀ c ∈ cs, isIdentifierPart c) : Mute cs where
  closed := Spot.after_of_isIdentifierPart h
  dots as bs heq := absurd (h '.' (by simp [heq])) (by decide)

theorem mute_nil : Mute [] :=
  mute_of_isIdentifierPart (List.forall_mem_nil _)

/-- A text that stays within a literal from its start to its end. -/
structure Enclosed (cs : List Char) : Prop where
  stays : (Spot.literal '"').after cs = .literal '"'
  within : ∀ as, as <+: cs → ((Spot.literal '"').after as).isCode = false

theorem enclosed_nil : Enclosed [] where
  stays := rfl
  within as h := by
    rw [List.prefix_nil.1 h]
    rfl

theorem Enclosed.append {cs ds : List Char} (hc : Enclosed cs) (hd : Enclosed ds) :
    Enclosed (cs ++ ds) where
  stays := by rw [Spot.after_append, hc.stays, hd.stays]
  within as h := by
    obtain ⟨rest, hrest⟩ := h
    rcases List.append_eq_append_iff.1 hrest with ⟨bs, rfl, -⟩ | ⟨bs, rfl, hbs⟩
    · exact hc.within as (List.prefix_append _ _)
    · rw [Spot.after_append, hc.stays]
      exact hd.within bs ⟨rest, hbs.symm⟩

theorem enclosed_singleton {c : Char} (hline : c ≠ '\n') (hquote : c ≠ '"') (hslash : c ≠ '\\') :
    Enclosed [c] where
  stays := by simp [Spot.next, hline, hquote, hslash]
  within as h := by
    rcases List.prefix_cons_iff.1 h with rfl | ⟨bs, rfl, hbs⟩
    · rfl
    · rw [List.prefix_nil.1 hbs]
      simp [Spot.next, Spot.isCode, hline, hquote, hslash]

theorem enclosed_escape {c : Char} (hline : c ≠ '\n') : Enclosed ['\\', c] where
  stays := by simp [Spot.next, hline]
  within as h := by
    rcases List.prefix_cons_iff.1 h with rfl | ⟨bs, rfl, hbs⟩
    · rfl
    · rcases List.prefix_cons_iff.1 hbs with rfl | ⟨cs, rfl, hcs⟩
      · rfl
      · rw [List.prefix_nil.1 hcs]
        simp [Spot.next, Spot.isCode, hline]

theorem enclosed_hexDigitChar {n : Nat} (h : n < 16) : Enclosed [hexDigitChar n] := by
  have hplain : ∀ n < 16, hexDigitChar n ≠ '\n' ∧ hexDigitChar n ≠ '"' ∧ hexDigitChar n ≠ '\\' := by
    decide
  obtain ⟨hline, hquote, hslash⟩ := hplain n h
  exact enclosed_singleton hline hquote hslash

theorem enclosed_literalChar (c : Char) : Enclosed (literalChar c) := by
  have hdigit (k : Nat) : Enclosed [hexDigitChar (k % 16)] :=
    enclosed_hexDigitChar (Nat.mod_lt _ (by decide))
  unfold literalChar
  split_ifs with hquote hslash hline hreturn htab hcontrol
  · exact enclosed_escape (by decide)
  · exact enclosed_escape (by decide)
  · exact enclosed_escape (by decide)
  · exact enclosed_escape (by decide)
  · exact enclosed_escape (by decide)
  · have hlead : Enclosed ['\\', 'u'] := enclosed_escape (by decide)
    exact hlead.append ((hdigit _).append ((hdigit _).append ((hdigit _).append (hdigit _))))
  · exact enclosed_singleton hline hquote hslash

theorem enclosed_flatMap_literalChar (cs : List Char) : Enclosed (cs.flatMap literalChar) := by
  induction cs with
  | nil => exact enclosed_nil
  | cons c cs ih => exact (enclosed_literalChar c).append ih

/-- A literal stays on its line. -/
theorem newline_notMem_goString (s : String) : '\n' ∉ (goString s).toList := by
  have hinner : '\n' ∉ s.toList.flatMap literalChar := by
    intro h
    obtain ⟨as, bs, hsplit⟩ := List.append_of_mem h
    have hwithin := (enclosed_flatMap_literalChar s.toList).within (as ++ ['\n'])
      ⟨bs, by simp [hsplit]⟩
    simp [Spot.after_append, Spot.isCode] at hwithin
  rw [toList_goString]
  simpa using hinner

/-- A literal is read as a whole. -/
theorem mute_goString (s : String) : Mute (goString s).toList := by
  have hinner : Enclosed (s.toList.flatMap literalChar) := enclosed_flatMap_literalChar s.toList
  rw [toList_goString]
  constructor
  · rw [List.cons_append, Spot.after_cons, Spot.after_append]
    change ((Spot.literal '"').after _).after ['"'] = _
    rw [hinner.stays]
    rfl
  · intro as bs h
    cases as with
    | nil => cases h
    | cons a as =>
      obtain ⟨rfl, hrest⟩ := List.cons.inj h
      refine hinner.within as ?_
      rcases List.append_eq_append_iff.1 hrest with ⟨cs, rfl, hcs⟩ | ⟨cs, hcs, -⟩
      · cases cs with
        | nil => cases hcs
        | cons d cs => cases cs <;> cases hcs
      · exact ⟨cs, hcs.symm⟩

/-! ## Silent templates -/

/-- No dot of a template stands in code behind a text that could end in `name`, if `word` is what
is known of the text so far, read backwards. A value can end in anything. -/
def silent (name : List Char) : Spot → List Char → List Part → Bool
  | _, _, [] => true
  | s, word, .char c :: ps =>
    !(c == '.' && s.isCode && (word.isPrefixOf name.reverse || name.reverse.isPrefixOf word))
      && silent name (s.next c) (c :: word) ps
  | s, _, .key _ :: ps => s == .code && silent name .code [] ps

section Silent

variable {tokens : List Token} (hmute : ∀ t ∈ tokens, Mute t.2)

include hmute

theorem mute_text (key : List Char) : Mute (Part.text tokens (.key key)) := by
  rw [Part.text]
  cases h : tokens.lookup key with
  | none => exact mute_nil
  | some value =>
    obtain ⟨_, _, rfl, -⟩ := List.lookup_eq_some_iff.1 h
    exact hmute (key, value) (by simp)

/-- The parts of a silent template are read one by one: a character is added to what is known, and
behind a value nothing is. -/
theorem not_suffix_of_silent {name : List Char} : ∀ {ps : List Part} {before word : List Char},
    silent name (Spot.code.after before) word ps → word.reverse <:+ before →
      ∀ {as bs : List Char}, ps.flatMap (Part.text tokens) = as ++ '.' :: bs →
        (Spot.code.after (before ++ as)).isCode → ¬name <:+ before ++ as
  | [], _, _, _, _, _, _, htext, _ => by simp at htext
  | .char c :: ps, before, word, hsilent, hword, as, bs, htext, hcode => by
    rw [silent, Bool.and_eq_true] at hsilent
    obtain ⟨hdot, hsilent⟩ := hsilent
    rw [List.flatMap_cons, Part.text, List.singleton_append] at htext
    cases as with
    | nil =>
      obtain ⟨rfl, -⟩ := List.cons.inj htext
      rw [List.append_nil] at hcode ⊢
      intro hname
      rcases List.suffix_or_suffix_of_suffix hname hword with h | h
      · rw [← List.reverse_prefix, List.reverse_reverse] at h
        simp [hcode, List.isPrefixOf_iff_prefix.2 h] at hdot
      · rw [← List.reverse_prefix, List.reverse_reverse] at h
        simp [hcode, List.isPrefixOf_iff_prefix.2 h] at hdot
    | cons a as =>
      obtain ⟨rfl, hrest⟩ := List.cons.inj htext
      rw [List.append_cons] at hcode ⊢
      refine not_suffix_of_silent (by simpa using hsilent) ?_ hrest hcode
      rw [List.reverse_cons]
      obtain ⟨start, rfl⟩ := hword
      exact ⟨start, (List.append_assoc _ _ _).symm⟩
  | .key k :: ps, before, word, hsilent, hword, as, bs, htext, hcode => by
    rw [silent, Bool.and_eq_true, beq_iff_eq] at hsilent
    obtain ⟨hspot, hsilent⟩ := hsilent
    have hvalue := mute_text hmute k
    rw [← hvalue.closed, ← hspot, ← Spot.after_append] at hsilent
    rw [List.flatMap_cons] at htext
    have hrest : ∃ as', as = Part.text tokens (.key k) ++ as' ∧
        ps.flatMap (Part.text tokens) = as' ++ '.' :: bs := by
      rcases List.append_eq_append_iff.1 htext with ⟨as', has, hps⟩ | ⟨bs', hv, hbs⟩
      · exact ⟨as', has, hps⟩
      · cases bs' with
        | nil => exact ⟨[], by simpa using hv.symm, by simpa using hbs.symm⟩
        | cons b bs' =>
          obtain ⟨rfl, -⟩ := List.cons.inj hbs
          rw [Spot.after_append, hspot, hvalue.dots as bs' hv] at hcode
          cases hcode
    obtain ⟨as', rfl, hps⟩ := hrest
    rw [← List.append_assoc] at hcode ⊢
    exact not_suffix_of_silent hsilent (List.reverse_nil ▸ List.nil_suffix) hps hcode

/-- In a silent template a name qualifies nothing. -/
theorem not_qualifies_of_silent {name text : String} {ps : List Part}
    (hname : ∀ c ∈ name.toList, isIdentifierPart c) (hsilent : silent name.toList .code [] ps)
    (htext : text.toList = ps.flatMap (Part.text tokens)) : ¬Qualifies name text := by
  rintro ⟨before, after, h, hcode, -⟩
  have hdot : (Spot.code.after ([] ++ (before ++ name.toList))).isCode := by
    rw [List.nil_append, Spot.after_append]
    exact Spot.isCode_after hname hcode
  have hword : ([] : List Char).reverse <:+ [] := List.nil_suffix
  exact not_suffix_of_silent hmute hsilent hword (htext.symm.trans h) hdot
    (List.suffix_append before name.toList)

end Silent

theorem not_qualifies_fill {name template : String} {tokens : List (String × String)}
    (hmute : ∀ t ∈ tokens, Mute t.2.toList) (hname : ∀ c ∈ name.toList, isIdentifierPart c)
    (hsilent : silent name.toList .code []
      (parts (tokens.map fun t => t.1.toList) template.toList)) :
    ¬Qualifies name (fill template tokens) := by
  have hvalues : ∀ t ∈ tokens.map fun t => (t.1.toList, t.2.toList), Mute t.2 := by
    simpa only [List.forall_mem_map] using hmute
  refine not_qualifies_of_silent hvalues hname hsilent ?_
  rw [fill, String.toList_ofList, fillChars_eq_flatMap, List.map_map]
  rfl

end ServiceCli.GoText
