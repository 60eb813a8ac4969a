import ServiceCli.Proofs.GoText.Named

/-!
# How a template is read

`Scan` says which parts a template is read as, from left to right: at a dollar sign the first listed
key that stands there, and elsewhere one character. It does not look at a value, so all values are
put into the same parts (`fill_follows_scan`), and what a value looks like makes no difference to
what stands beside it. The template of the service groups has no dollar sign but in its keys
(`no_dollar_groupTemplate`): those in the text of a group come from the values alone.
-/

namespace ServiceCli.GoText

open Command Text

/-- Which parts a template is read as when keys are looked for in the order of a list. -/
inductive Scan (keys : List (List Char)) : List Char → List Part → Prop
  | nil : Scan keys [] []
  | char {c : Char} {cs : List Char} {ps : List Part} :
    c ≠ '$' → Scan keys cs ps → Scan keys (c :: cs) (.char c :: ps)
  | key {cs rest key : List Char} {before after : List (List Char)} {ps : List Part} :
    keys = before ++ key :: after → (∀ k ∈ before, ¬k <+: '$' :: cs) → '$' :: cs = key ++ rest →
      Scan keys rest ps → Scan keys ('$' :: cs) (.key key :: ps)
  | dollar {cs : List Char} {ps : List Part} :
    (∀ k ∈ keys, ¬k <+: '$' :: cs) → Scan keys cs ps → Scan keys ('$' :: cs) (.char '$' :: ps)

/-- What a part of a template was read from. -/
def Part.source : Part → List Char
  | char c => [c]
  | key k => k

variable {keys : List (List Char)} {cs : List Char} {ps : List Part}

/-! ## Reading a template -/

/-- Nothing of the template is lost or read twice. -/
theorem Scan.flatMap_source (h : Scan keys cs ps) : ps.flatMap Part.source = cs := by
  induction h with
  | nil => rfl
  | char _ _ ih => exact congrArg _ ih
  | key _ _ hcs _ ih => rw [List.flatMap_cons, ih, Part.source, hcs]
  | dollar _ _ ih => exact congrArg _ ih

theorem Scan.mem_keys (h : Scan keys cs ps) {key : List Char} (hkey : .key key ∈ ps) : key ∈ keys := by
  induction h with
  | nil => cases hkey
  | char _ _ ih | dollar _ _ ih => exact ih (by simpa using hkey)
  | key hsplit _ _ _ ih =>
    rcases List.mem_cons.1 hkey with hkey | hkey
    · obtain rfl := Part.key.inj hkey
      rw [hsplit]
      exact List.mem_append_right _ List.mem_cons_self
    · exact ih hkey

/-- The first listed key at the start of a text. -/
theorem keyAt_eq_some_iff (hkeys : [] ∉ keys) {key : List Char} :
    keyAt keys cs = some key ↔
      key <+: cs ∧ ∃ before after, keys = before ++ key :: after ∧ ∀ k ∈ before, ¬k <+: cs := by
  have hne {k : List Char} (hk : k ∈ keys) : k ≠ [] := fun hnil => hkeys (hnil ▸ hk)
  rw [keyAt, List.find?_eq_some_iff_append]
  constructor
  · rintro ⟨hkey, before, after, rfl, hbefore⟩
    refine ⟨(of_decide_eq_true hkey).2, before, after, rfl, fun k hk hlead => ?_⟩
    have hk' := hbefore k hk
    simp [hne (List.mem_append_left _ hk), hlead] at hk'
  · rintro ⟨hkey, before, after, rfl, hbefore⟩
    refine ⟨?_, before, after, rfl, fun k hk => ?_⟩
    · simp [hne (List.mem_append_right _ List.mem_cons_self), hkey]
    · simp [hbefore k hk]

theorem keyAt_eq_none_iff (hkeys : [] ∉ keys) :
    keyAt keys cs = none ↔ ∀ k ∈ keys, ¬k <+: cs := by
  have hne {k : List Char} (hk : k ∈ keys) : k ≠ [] := fun hnil => hkeys (hnil ▸ hk)
  rw [keyAt, List.find?_eq_none]
  exact forall₂_congr fun k hk => by simp [hne hk]

/-- The parts of a template are those that it is read as. -/
theorem scan_parts (hkeys : [] ∉ keys) (cs : List Char) : Scan keys cs (parts keys cs) := by
  induction hlength : cs.length using Nat.strongRecOn generalizing cs with
  | ind n ih =>
    subst hlength
    cases cs with
    | nil => exact .nil
    | cons c cs =>
      by_cases hc : c = '$'
      · subst hc
        cases hkey : keyAt keys ('$' :: cs) with
        | none =>
          rw [parts_char fun _ => hkey]
          exact .dollar ((keyAt_eq_none_iff hkeys).1 hkey) (ih _ (by simp) cs rfl)
        | some key =>
          obtain ⟨⟨rest, hrest⟩, before, after, hsplit, hbefore⟩ := (keyAt_eq_some_iff hkeys).1 hkey
          have hdrop : ('$' :: cs).drop key.length = rest := by
            rw [← hrest, List.drop_left]
          have hlt : rest.length < ('$' :: cs).length := by
            have hpos := List.length_pos_iff.2 (keyAt_eq_some hkey).2.1
            rw [← hrest, List.length_append]
            omega
          rw [parts_key hkey, hdrop]
          exact .key hsplit hbefore hrest.symm (ih _ hlt rest rfl)
      · rw [parts_char fun h => absurd h hc]
        exact .char hc (ih _ (by simp) cs rfl)

/-- A template is read in one way only. -/
theorem Scan.eq_parts (hkeys : [] ∉ keys) (h : Scan keys cs ps) : ps = parts keys cs := by
  induction h with
  | nil => rfl
  | char hc _ ih => rw [parts_char fun h => absurd h hc, ih]
  | @key cs rest key before after ps hsplit hbefore hcs _ ih =>
    have hkey : keyAt keys ('$' :: cs) = some key :=
      (keyAt_eq_some_iff hkeys).2 ⟨⟨rest, hcs.symm⟩, before, after, hsplit, hbefore⟩
    rw [parts_key hkey, hcs, List.drop_left, ih]
  | dollar hnone _ ih => rw [parts_char fun _ => (keyAt_eq_none_iff hkeys).2 hnone, ih]

theorem scan_iff (hkeys : [] ∉ keys) : Scan keys cs ps ↔ ps = parts keys cs :=
  ⟨Scan.eq_parts hkeys, fun h => h ▸ scan_parts hkeys cs⟩

/-! ## The template of the service groups -/

theorem parts_lines (hkeys : ∀ key ∈ keys, '\n' ∉ key) :
    ∀ ls : List String,
      parts keys (lines ls).toList = ls.flatMap fun l => parts keys l.toList ++ [.char '\n']
  | [] => rfl
  | l :: ls => by
    have hlines : (lines (l :: ls)).toList = l.toList ++ '\n' :: (lines ls).toList := by
      simp [lines_cons]
    rw [hlines, parts, partsAfter_newline hkeys _ (Nat.zero_le _), parts_lines hkeys ls,
      List.flatMap_cons, List.append_assoc]
    rfl

/-- Whether every dollar sign of a line belongs to a key. -/
def isFilled (cs : List Char) : Bool :=
  (parts groupKeys cs).all (· != .char '$')

set_option maxRecDepth 2000 in
theorem filled_groupLines : ∀ l ∈ groupLines, isFilled l.toList := by
  simp only [groupLines, List.forall_mem_append]
  refine ⟨⟨⟨⟨⟨⟨⟨?_, ?_⟩, ?_⟩, ?_⟩, ?_⟩, ?_⟩, ?_⟩, ?_⟩
  all_goals
    first
      | unfold configVariable | unfold configType | unfold configConstructor
      | unfold flagRegistration | unfold groupCommand | unfold dialing | unfold roundTripType
      | unfold roundTrip
    repeat' first | exact List.forall_mem_nil _ | refine forall_ofList (by decide +kernel) ?_

/-- Every dollar sign of the template belongs to a key. -/
theorem no_dollar_groupTemplate : .char '$' ∉ parts groupKeys groupTemplate.toList := by
  have hlines : groupTemplate = lines groupLines := rfl
  have hkeys : ∀ key ∈ groupKeys, '\n' ∉ key := by decide
  rw [hlines, parts_lines hkeys, List.mem_flatMap]
  rintro ⟨l, hl, hmem⟩
  rcases List.mem_append.1 hmem with hmem | hmem
  · have hfilled := List.all_eq_true.1 (filled_groupLines l hl) _ hmem
    simp at hfilled
  · simp at hmem

/-! ## Filling a template -/

/-- The tokens with which a template is filled, as lists of characters. -/
def tokenChars (tokens : List (String × String)) : List Token :=
  tokens.map fun t => (t.1.toList, t.2.toList)

theorem toList_fill (template : String) (tokens : List (String × String)) :
    (fill template tokens).toList =
      (parts (tokens.map fun t => t.1.toList) template.toList).flatMap
        (Part.text (tokenChars tokens)) := by
  have hkeys : (tokenChars tokens).map Prod.fst = tokens.map fun t => t.1.toList := by
    rw [tokenChars, List.map_map]
    rfl
  rw [fill, String.toList_ofList, ← hkeys]
  exact fillChars_eq_flatMap template.toList

/-- A template whose keys start with a dollar sign is read as the same parts whatever is put in for
the keys. The parts are put together to the template, and so they are to the filled template, with
the value of a key in place of the key. No part of the template of the service groups is a dollar
sign itself, so each dollar sign in the text of a group stands in a value. -/
theorem fill_follows_scan :
    (∀ (template : String) (keys : List String), (∀ key ∈ keys, ∃ rest, key = "$" ++ rest) →
      ∃ ps, (∀ qs, Scan (keys.map String.toList) template.toList qs ↔ qs = ps) ∧
        ps.flatMap Part.source = template.toList ∧
        ∀ tokens : List (String × String), tokens.map Prod.fst = keys →
          (fill template tokens).toList = ps.flatMap (Part.text (tokenChars tokens))) ∧
    ∃ ps, ∀ g : ServiceGroup,
      Scan ((groupTokens g).map fun t => t.1.toList) groupTemplate.toList ps ∧
        (groupText g).toList = ps.flatMap (Part.text (tokenChars (groupTokens g))) ∧
        ∀ part ∈ ps, '$' ∈ part.text (tokenChars (groupTokens g)) →
          ∃ t ∈ groupTokens g, part = .key t.1.toList := by
  constructor
  · intro template keys hkeys
    have hne : [] ∉ keys.map String.toList := by
      intro hnil
      obtain ⟨key, hkey, hempty⟩ := List.mem_map.1 hnil
      obtain ⟨rest, rfl⟩ := hkeys key hkey
      simp at hempty
    refine ⟨parts (keys.map String.toList) template.toList, fun _ => scan_iff hne,
      (scan_parts hne _).flatMap_source, ?_⟩
    rintro tokens rfl
    rw [toList_fill, List.map_map]
    rfl
  · have hne : [] ∉ groupKeys := by decide
    refine ⟨parts groupKeys groupTemplate.toList, fun g => ?_⟩
    have hscan := scan_parts hne groupTemplate.toList
    rw [groupText, toList_fill, keys_groupTokens]
    refine ⟨hscan, rfl, fun part hpart hmem => ?_⟩
    cases part with
    | char c =>
      obtain rfl := List.mem_singleton.1 hmem
      exact absurd hpart no_dollar_groupTemplate
    | key key =>
      have hkey := hscan.mem_keys hpart
      rw [← keys_groupTokens g] at hkey
      obtain ⟨t, ht, rfl⟩ := List.mem_map.1 hkey
      exact ⟨t, ht, rfl⟩

/-- The first listed key counts, and the value put in for it is not read again. -/
theorem fill_overlapping :
    fill "$AB$-" [("$A", "$AB"), ("$AB", "!")] = "$ABB$-" := by
  obtain ⟨ps, hscan, -, hfill⟩ := fill_follows_scan.1 "$AB$-" ["$A", "$AB"]
    (by simpa using ⟨⟨"A", rfl⟩, ⟨"AB", rfl⟩⟩)
  have hparts : Scan [['$', 'A'], ['$', 'A', 'B']] ['$', 'A', 'B', '$', '-']
      [.key ['$', 'A'], .char 'B', .char '$', .char '-'] :=
    .key (List.nil_append _).symm (by simp) rfl
      (.char (by decide) (.dollar (by decide) (.char (by decide) .nil)))
  obtain rfl := (hscan _).1 (by simpa using hparts)
  rw [← String.toList_inj, hfill _ rfl]
  decide

end ServiceCli.GoText
