import Mathlib.Data.List.TakeWhile
import ServiceCli.Text.Pieces

/-!
# What a cut leaves

A text that is cut at its first or its last separator is put together from the two parts again, and
the part before the first one, or behind the last one, has no separator (`cutFirst_eq_some_iff`,
`cutLast_eq_some_iff`). None of the pieces of a text has one either
(`notMem_of_mem_pieces`), nor has a text that is joined from such pieces by something else
(`notMem_intercalate`). A text is cut at its first separator in one way only (`cut_injective`).
-/

namespace ServiceCli.Text

/-! ## The first separator -/

/-- Where a text is cut at its first separator. -/
theorem cutFirst_eq_some_iff {sep : Char} {s lead rest : String} :
    cutFirst sep s = some (lead, rest) ↔
      s.toList = lead.toList ++ sep :: rest.toList ∧ sep ∉ lead.toList := by
  unfold cutFirst
  constructor
  · intro h
    have hsplit := List.takeWhile_append_dropWhile (p := (· != sep)) (l := s.toList)
    split at h
    · cases h
    · next c cs hdrop =>
      obtain ⟨rfl, rfl⟩ := Prod.mk.inj (Option.some.inj h)
      have hc : c = sep := by
        have hhead := List.head_dropWhile_not (· != sep) (l := s.toList) (by simp [hdrop])
        simpa [hdrop] using hhead
      rw [hdrop, hc] at hsplit
      constructor
      · simpa using hsplit.symm
      · intro hm
        have hsep := List.mem_takeWhile_imp (String.toList_ofList ▸ hm)
        simp at hsep
  · rintro ⟨hs, hlead⟩
    have hall : ∀ c ∈ lead.toList, (c != sep) = true := by
      intro c hc
      rw [bne_iff_ne]
      rintro rfl
      exact hlead hc
    rw [hs, List.dropWhile_append_of_pos hall, List.takeWhile_append_of_pos hall]
    simp

theorem cutFirst_eq_none_iff {sep : Char} {s : String} :
    cutFirst sep s = none ↔ sep ∉ s.toList := by
  have hall : sep ∉ s.toList ↔ ∀ c ∈ s.toList, (c != sep) = true := by
    simp only [bne_iff_ne, ne_eq]
    exact ⟨fun h c hc hsep => h (hsep ▸ hc), fun h hsep => h sep hsep rfl⟩
  rw [hall, ← List.dropWhile_eq_nil_iff, cutFirst]
  split <;> simp [*]

/-! ## The last separator -/

/-- Where a text is cut at its last separator. -/
theorem cutLast_eq_some_iff {sep : Char} {s lead last : String} :
    cutLast sep s = some (lead, last) ↔
      s.toList = lead.toList ++ sep :: last.toList ∧ sep ∉ last.toList := by
  unfold cutLast
  constructor
  · intro h
    have hsplit := List.takeWhile_append_dropWhile (p := (· != sep)) (l := s.toList.reverse)
    split at h
    · cases h
    · next c rest hdrop =>
      obtain ⟨rfl, rfl⟩ := Prod.mk.inj (Option.some.inj h)
      have hc : c = sep := by
        have hhead := List.head_dropWhile_not (· != sep) (l := s.toList.reverse) (by simp [hdrop])
        simpa [hdrop] using hhead
      rw [hdrop, hc] at hsplit
      constructor
      · simpa using (congrArg List.reverse hsplit).symm
      · intro hm
        have hsep := List.mem_takeWhile_imp (List.mem_reverse.1 (by simpa using hm))
        simp at hsep
  · rintro ⟨hs, hlast⟩
    have hrev : s.toList.reverse = last.toList.reverse ++ sep :: lead.toList.reverse := by
      simp [hs]
    have hall : ∀ c ∈ last.toList.reverse, (c != sep) = true := by
      intro c hc
      rw [bne_iff_ne]
      rintro rfl
      exact hlast (List.mem_reverse.1 hc)
    rw [hrev, List.dropWhile_append_of_pos hall, List.takeWhile_append_of_pos hall]
    simp

theorem cutLast_eq_none_iff {sep : Char} {s : String} : cutLast sep s = none ↔ sep ∉ s.toList := by
  unfold cutLast
  constructor
  · intro h hmem
    split at h
    · next hdrop =>
      have hne := List.dropWhile_eq_nil_iff.1 hdrop sep (List.mem_reverse.2 hmem)
      simp at hne
    · cases h
  · intro h
    have hdrop : s.toList.reverse.dropWhile (· != sep) = [] := by
      refine List.dropWhile_eq_nil_iff.2 fun c hc => ?_
      rw [bne_iff_ne]
      rintro rfl
      exact h (List.mem_reverse.1 hc)
    rw [hdrop]

theorem notMem_lastPiece (sep : Char) (s : String) : sep ∉ (lastPiece sep s).toList := by
  rw [lastPiece]
  cases h : cutLast sep s with
  | none => exact cutLast_eq_none_iff.1 h
  | some cut => exact (cutLast_eq_some_iff.1 h).2

/-! ## The end of a text -/

theorem beforeTail_eq_some_iff {tail s r : String} : beforeTail tail s = some r ↔ s = r ++ tail := by
  rw [beforeTail, Option.map_eq_some_iff]
  constructor
  · rintro ⟨cs, h, rfl⟩
    rw [after?_eq_some_iff] at h
    rw [← String.toList_inj, ← List.reverse_inj, h]
    simp
  · rintro rfl
    exact ⟨r.toList.reverse, after?_eq_some_iff.2 (by simp), by simp⟩

theorem dropTail_append (tail s : String) : dropTail tail (s ++ tail) = s := by
  rw [dropTail, beforeTail_eq_some_iff.2 rfl, Option.getD_some]

theorem dropTail_of_forall_ne {tail s : String} (h : ∀ r, s ≠ r ++ tail) : dropTail tail s = s := by
  have hnone : beforeTail tail s = none :=
    Option.eq_none_iff_forall_ne_some.2 fun r hr => h r (beforeTail_eq_some_iff.1 hr)
  rw [dropTail, hnone, Option.getD_none]

/-! ## The first separator -/

/-- No two cuts of one text at its first separator are different. -/
theorem cut_injective {sep : Char} {a b a' b' : List Char} (ha : sep ∉ a) (ha' : sep ∉ a')
    (h : a ++ sep :: b = a' ++ sep :: b') : a = a' ∧ b = b' := by
  have hsplit := congrArg (List.splitOn sep) h
  rw [List.splitOn_append_cons_self_of_not_mem ha,
    List.splitOn_append_cons_self_of_not_mem ha'] at hsplit
  obtain rfl := (List.cons.inj hsplit).1
  rw [List.append_cancel_left_eq] at h
  exact ⟨rfl, (List.cons.inj h).2⟩

/-! ## Pieces -/

theorem notMem_of_mem_splitOn {sep : Char} :
    ∀ {cs piece : List Char}, piece ∈ cs.splitOn sep → sep ∉ piece
  | [], piece, h => by
    rw [List.splitOn_nil, List.mem_singleton] at h
    simp [h]
  | c :: cs, piece, h => by
    have ih : ∀ p ∈ cs.splitOn sep, sep ∉ p := fun p => notMem_of_mem_splitOn
    rw [List.splitOn_cons_eq_if_modifyHead] at h
    split at h
    · rcases List.mem_cons.1 h with rfl | h
      · simp
      · exact ih piece h
    · next hc =>
      cases hs : cs.splitOn sep with
      | nil => exact absurd hs (List.splitOn_ne_nil _ _)
      | cons p ps =>
        rw [hs] at h ih
        rcases List.mem_cons.1 h with rfl | h
        · rw [List.mem_cons, not_or]
          exact ⟨fun he => hc (by simp [he]), ih p List.mem_cons_self⟩
        · exact ih piece (List.mem_cons_of_mem _ h)

theorem notMem_of_mem_pieces {sep : Char} {s piece : String} (h : piece ∈ pieces sep s) :
    sep ∉ piece.toList := by
  obtain ⟨cs, hcs, rfl⟩ := List.mem_map.1 h
  rw [String.toList_ofList]
  exact notMem_of_mem_splitOn hcs

theorem mem_of_mem_splitOn {sep c : Char} :
    ∀ {cs piece : List Char}, piece ∈ cs.splitOn sep → c ∈ piece → c ∈ cs
  | [], piece, h, hc => by
    rw [List.splitOn_nil, List.mem_singleton] at h
    rwa [h] at hc
  | d :: cs, piece, h, hc => by
    have ih : ∀ p ∈ cs.splitOn sep, c ∈ p → c ∈ cs := fun p => mem_of_mem_splitOn
    rw [List.splitOn_cons_eq_if_modifyHead] at h
    split at h
    · rcases List.mem_cons.1 h with rfl | h
      · cases hc
      · exact List.mem_cons_of_mem _ (ih piece h hc)
    · cases hs : cs.splitOn sep with
      | nil => exact absurd hs (List.splitOn_ne_nil _ _)
      | cons p ps =>
        rw [hs] at h ih
        rcases List.mem_cons.1 h with rfl | h
        · rcases List.mem_cons.1 hc with rfl | hc
          · exact List.mem_cons_self
          · exact List.mem_cons_of_mem _ (ih p List.mem_cons_self hc)
        · exact List.mem_cons_of_mem _ (ih piece (List.mem_cons_of_mem _ h) hc)

/-- The characters of the pieces are some of those of the text. -/
theorem mem_toList_of_mem_pieces {sep c : Char} {s piece : String} (h : piece ∈ pieces sep s)
    (hc : c ∈ piece.toList) : c ∈ s.toList := by
  obtain ⟨cs, hcs, rfl⟩ := List.mem_map.1 h
  rw [String.toList_ofList] at hc
  exact mem_of_mem_splitOn hcs hc

theorem pieces_of_notMem {sep : Char} {s : String} (h : sep ∉ s.toList) : pieces sep s = [s] := by
  rw [pieces, List.splitOn_eq_singleton h]
  simp

/-- The pieces of two texts with a separator between them are those of both. -/
theorem pieces_append {sep : Char} {text : String} (ht : text.toList = [sep]) (s s' : String) :
    pieces sep (s ++ text ++ s') = pieces sep s ++ pieces sep s' := by
  simp [pieces, ht, List.splitOn_append_cons_self]

/-- A separator at the end leaves an empty piece there. -/
theorem pieces_of_getLast? {sep : Char} {s : String} (h : s.toList.getLast? = some sep) :
    ∃ names, pieces sep s = names ++ [""] := by
  obtain ⟨cs, hcs⟩ := List.getLast?_eq_some_iff.1 h
  refine ⟨(cs.splitOn sep).map String.ofList, ?_⟩
  rw [pieces, hcs, List.splitOn_append_cons_self]
  simp

/-- A text that is joined to names without a separator is cut as it is by itself. -/
theorem pieces_intercalate_concat {sep : Char} {text : String} (ht : text.toList = [sep])
    (s : String) :
    ∀ {names : List String}, (∀ name ∈ names, sep ∉ name.toList) →
      pieces sep (String.intercalate text (names ++ [s])) = names ++ pieces sep s
  | [], _ => by simp
  | name :: names, h => by
    have hrest := pieces_intercalate_concat ht s fun n hn => h n (List.mem_cons_of_mem _ hn)
    rw [List.cons_append, String.intercalate_cons_of_ne_nil (by simp), pieces_append ht, hrest,
      pieces_of_notMem (h name List.mem_cons_self)]
    rfl

/-- A text that is joined to names stands at the end of the whole. -/
theorem suffix_intercalate_concat (text s : String) :
    ∀ names : List String, s.toList <:+ (String.intercalate text (names ++ [s])).toList
  | [] => by simp
  | name :: names => by
    rw [List.cons_append, String.intercalate_cons_of_ne_nil (by simp), String.toList_append]
    exact (suffix_intercalate_concat text s names).trans (List.suffix_append _ _)

/-- Whether a text starts with a separator is seen from its pieces. -/
theorem head?_eq_iff_pieces {sep : Char} {s : String} :
    s.toList.head? = some sep ↔ ∃ name names, pieces sep s = "" :: name :: names := by
  rw [pieces]
  cases s.toList with
  | nil => simp
  | cons c cs =>
    obtain ⟨p, ps, hps⟩ := List.exists_cons_of_ne_nil (List.splitOn_ne_nil sep cs)
    rw [List.splitOn_cons_eq_if_modifyHead, hps]
    by_cases hc : c = sep
    · simp [hc]
    · simp [hc]

/-- Names without a separator that are joined by one are the pieces of the whole. -/
theorem pieces_intercalate {sep : Char} {text : String} (ht : text.toList = [sep])
    {names : List String} (hne : names ≠ []) (h : ∀ name ∈ names, sep ∉ name.toList) :
    pieces sep (String.intercalate text names) = names := by
  obtain ⟨init, last, rfl⟩ : ∃ init last, names = init ++ [last] :=
    ⟨_, _, (List.dropLast_concat_getLast hne).symm⟩
  rw [pieces_intercalate_concat ht _ fun name hname => h name (List.mem_append_left _ hname),
    pieces_of_notMem (h _ (List.mem_append_right _ (List.mem_singleton.2 rfl)))]

/-- The pieces of a text are put together to the text again. -/
theorem intercalate_pieces {sep : Char} {text : String} (ht : text.toList = [sep]) (s : String) :
    String.intercalate text (pieces sep s) = s := by
  rw [← String.toList_inj, String.toList_intercalate, ht, pieces, List.map_map]
  simp [Function.comp_def, List.intercalate_splitOn]

/-- A character that is in none of the names nor in the text set between them is not in the whole. -/
theorem notMem_intercalate {c : Char} {sep : String} (hsep : c ∉ sep.toList) :
    ∀ {names : List String}, (∀ name ∈ names, c ∉ name.toList) →
      c ∉ (String.intercalate sep names).toList
  | [], _ => by simp
  | [name], h => by simpa using h
  | name :: next :: names, h => by
    have hrest := notMem_intercalate hsep fun n hn => h n (List.mem_cons_of_mem _ hn)
    rw [String.intercalate_cons_cons]
    simp only [String.toList_append, List.mem_append, not_or]
    exact ⟨⟨h name List.mem_cons_self, hsep⟩, hrest⟩

/-- Joined names without a character that is set between them are a single name. -/
theorem exists_eq_singleton_of_notMem_intercalate {c : Char} {sep : String} (hsep : c ∈ sep.toList) :
    ∀ {names : List String}, names ≠ [] → c ∉ (String.intercalate sep names).toList →
      ∃ name, names = [name] ∧ c ∉ name.toList
  | [], hne, _ => absurd rfl hne
  | [name], _, h => ⟨name, rfl, by simpa using h⟩
  | name :: next :: names, _, h => by
    rw [String.intercalate_cons_cons] at h
    simp only [String.toList_append, List.mem_append, not_or] at h
    exact absurd hsep h.1.2

/-- How long joined names are does not depend on which text is set between them, if it is as
long. -/
theorem length_intercalate {sep sep' : String} (hsep : sep.length = sep'.length) :
    ∀ names : List String,
      (String.intercalate sep names).length = (String.intercalate sep' names).length
  | [] => rfl
  | [name] => rfl
  | name :: next :: names => by
    have hrest := length_intercalate hsep (next :: names)
    rw [String.intercalate_cons_cons, String.intercalate_cons_cons]
    simp only [String.length_append, hsep, hrest]

end ServiceCli.Text
