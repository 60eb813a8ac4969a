import Mathlib.Data.List.Forall2

/-!
# When a row of steps succeeds

Steps that may fail succeed together exactly if each of them does, each from what the one before
gave. They fail with the error of the first one that fails, and what was done to a state before that
stays (`run_bind`). Where each step looks for faults in some order and fails with the first one
(`FailsFirst`), so does the whole row with the first of all faults (`FailsFirst.mapM`).
-/

namespace ServiceCli

variable {ε α β : Type}

theorem bind_eq_ok_iff {x : Except ε α} {f : α → Except ε β} {b : β} :
    (x >>= f) = .ok b ↔ ∃ a, x = .ok a ∧ f a = .ok b := by
  cases x with
  | error e =>
    constructor
    · intro h
      cases h
    · rintro ⟨a, h, -⟩
      cases h
  | ok a =>
    constructor
    · intro h
      exact ⟨a, rfl, h⟩
    · rintro ⟨a', h, hf⟩
      cases h
      exact hf

theorem bind_eq_error_iff {x : Except ε α} {f : α → Except ε β} {e : ε} :
    (x >>= f) = .error e ↔ x = .error e ∨ ∃ a, x = .ok a ∧ f a = .error e := by
  cases x with
  | error e' =>
    have hx : (Except.error e' >>= f) = .error e' := rfl
    simp [hx]
  | ok a =>
    constructor
    · intro h
      exact Or.inr ⟨a, rfl, h⟩
    · rintro (h | ⟨a', h, hf⟩)
      · cases h
      · cases h
        exact hf

theorem map_eq_ok_iff {x : Except ε α} {f : α → β} {b : β} :
    x.map f = .ok b ↔ ∃ a, x = .ok a ∧ f a = b := by
  cases x with
  | error e => simp [Except.map]
  | ok a => simp [Except.map]

theorem map_eq_error_iff {x : Except ε α} {f : α → β} {e : ε} :
    x.map f = .error e ↔ x = .error e := by
  cases x with
  | error e' => simp [Except.map]
  | ok a => simp [Except.map]

theorem mapError_eq_ok_iff {ε' : Type} {x : Except ε α} {f : ε → ε'} {a : α} :
    x.mapError f = .ok a ↔ x = .ok a := by
  cases x with
  | error e => simp [Except.mapError]
  | ok a => simp [Except.mapError]

/-- Two steps that change a state run one after the other, unless the first one fails. -/
theorem run_bind {σ : Type} (x : ExceptT ε (StateM σ) α) (f : α → ExceptT ε (StateM σ) β) (t : σ) :
    (x >>= f).run.run t =
      match x.run.run t with
      | (.ok a, u) => (f a).run.run u
      | (.error e, u) => (.error e, u) := by
  rw [ExceptT.run_bind, StateT.run_bind]
  rcases x.run.run t with ⟨_ | a, u⟩ <;> rfl

/-- A step for each item of a list succeeds exactly if it does for every item. -/
theorem mapM_eq_ok_iff {f : α → Except ε β} :
    ∀ {as : List α} {bs : List β},
      as.mapM f = .ok bs ↔ List.Forall₂ (fun a b => f a = .ok b) as bs
  | [], bs => by
    rw [List.mapM_nil, List.forall₂_nil_left_iff]
    constructor
    · intro h
      exact (Except.ok.inj h).symm
    · rintro rfl
      rfl
  | a :: as, bs => by
    rw [List.mapM_cons, bind_eq_ok_iff, List.forall₂_cons_left_iff]
    constructor
    · rintro ⟨b, hb, h⟩
      obtain ⟨cs, hcs, h⟩ := bind_eq_ok_iff.1 h
      exact ⟨b, cs, hb, mapM_eq_ok_iff.1 hcs, (Except.ok.inj h).symm⟩
    · rintro ⟨b, cs, hb, hcs, rfl⟩
      exact ⟨b, hb, bind_eq_ok_iff.2 ⟨cs, mapM_eq_ok_iff.2 hcs, rfl⟩⟩

/-- Where a step for each item fails, it does so for some item. -/
theorem exists_of_mapM_eq_error {f : α → Except ε β} {e : ε} :
    ∀ {as : List α}, as.mapM f = .error e → ∃ a ∈ as, f a = .error e
  | [], h => by cases h
  | a :: as, h => by
    rw [List.mapM_cons] at h
    rcases bind_eq_error_iff.1 h with ha | ⟨b, -, h⟩
    · exact ⟨a, List.mem_cons_self, ha⟩
    · rcases bind_eq_error_iff.1 h with hrest | ⟨bs, -, h⟩
      · obtain ⟨a', ha', hf⟩ := exists_of_mapM_eq_error hrest
        exact ⟨a', List.mem_cons_of_mem _ ha', hf⟩
      · cases h

/-- How a fold ends whose last item is split off. -/
theorem foldlM_concat_eq_ok_iff {f : β → α → Except ε β} {as : List α} {a : α} {b c : β} :
    (as ++ [a]).foldlM f b = .ok c ↔ ∃ m, as.foldlM f b = .ok m ∧ f m a = .ok c := by
  rw [List.foldlM_append, bind_eq_ok_iff]
  refine exists_congr fun m => and_congr_right fun _ => ?_
  rw [List.foldlM_cons, bind_eq_ok_iff]
  constructor
  · rintro ⟨c', h, hc⟩
    rwa [Except.ok.inj hc] at h
  · exact fun h => ⟨c, h, rfl⟩

section Fold

variable {f : β → α → Except ε β} {p : α → Prop} {fault : α → ε}

/-- Where each item is used or refused, whatever came before it, a fold succeeds exactly if every
item is used. -/
theorem exists_foldlM_eq_ok_iff
    (hf : ∀ b a, (p a ∧ ∃ c, f b a = .ok c) ∨ (¬p a ∧ f b a = .error (fault a))) :
    ∀ {as : List α} {b : β}, (∃ c, as.foldlM f b = .ok c) ↔ ∀ a ∈ as, p a
  | [], b => by simpa using ⟨b, rfl⟩
  | a :: as, b => by
    rw [List.foldlM_cons, List.forall_mem_cons]
    rcases hf b a with ⟨ha, c, hc⟩ | ⟨ha, hc⟩
    · rw [hc, ← exists_foldlM_eq_ok_iff hf (b := c)]
      exact (and_iff_right ha).symm
    · rw [hc]
      simp [ha, Bind.bind, Except.bind]

/-- Such a fold fails with the fault of the first item that is refused, whatever follows it. -/
theorem foldlM_eq_error_iff
    (hf : ∀ b a, (p a ∧ ∃ c, f b a = .ok c) ∨ (¬p a ∧ f b a = .error (fault a))) {e : ε} :
    ∀ {as : List α} {b : β}, as.foldlM f b = .error e ↔
      ∃ before a after, as = before ++ a :: after ∧ (∀ x ∈ before, p x) ∧ ¬p a ∧ e = fault a
  | [], b => by
    constructor
    · intro h
      cases h
    · rintro ⟨before, a, after, h, -⟩
      simp at h
  | a :: as, b => by
    rw [List.foldlM_cons]
    rcases hf b a with ⟨ha, c, hc⟩ | ⟨ha, hc⟩
    · have hstep : (f b a >>= fun b => as.foldlM f b) = as.foldlM f c := by
        rw [hc]
        rfl
      rw [hstep, foldlM_eq_error_iff hf]
      constructor
      · rintro ⟨before, a', after, rfl, hbefore, ha'⟩
        exact ⟨a :: before, a', after, rfl, List.forall_mem_cons.2 ⟨ha, hbefore⟩, ha'⟩
      · rintro ⟨before, a', after, has, hbefore, ha', he⟩
        cases before with
        | nil => exact absurd ((List.cons.inj has).1 ▸ ha) ha'
        | cons x before =>
          obtain ⟨rfl, rfl⟩ := List.cons.inj has
          exact ⟨before, a', after, rfl, (List.forall_mem_cons.1 hbefore).2, ha', he⟩
    · have hstep : (f b a >>= fun b => as.foldlM f b) = .error (fault a) := by
        rw [hc]
        rfl
      rw [hstep]
      constructor
      · intro h
        exact ⟨[], a, as, rfl, by simp, ha, (Except.error.inj h).symm⟩
      · rintro ⟨before, a', after, has, hbefore, ha', rfl⟩
        cases before with
        | nil => rw [(List.cons.inj has).1]
        | cons x before =>
          obtain ⟨rfl, rfl⟩ := List.cons.inj has
          exact absurd (hbefore a List.mem_cons_self) ha

end Fold

/-! ## The first fault -/

/-- A step fails exactly with the first of its faults, and succeeds if it has none. -/
def FailsFirst (faults : List ε) (x : Except ε α) : Prop :=
  ∀ e, x = .error e ↔ faults.head? = some e

theorem failsFirst_ok (a : α) : FailsFirst [] (.ok a : Except ε α) := by
  simp [FailsFirst]

theorem failsFirst_error (e : ε) (faults : List ε) :
    FailsFirst (e :: faults) (.error e : Except ε α) := by
  simp [FailsFirst]

namespace FailsFirst

variable {faults faults' : List ε} {x : Except ε α}

theorem exists_eq_ok_iff (h : FailsFirst faults x) : (∃ a, x = .ok a) ↔ faults = [] := by
  cases x with
  | error e =>
    have hfirst := (h e).1 rfl
    constructor
    · rintro ⟨a, ha⟩
      cases ha
    · rintro rfl
      cases hfirst
  | ok a =>
    cases faults with
    | nil => simp
    | cons e faults => exact nomatch (h e).2 rfl

/-- A step after which another one looks for more faults. -/
theorem bind {f : α → Except ε β} (hx : FailsFirst faults x)
    (hf : ∀ a, x = .ok a → FailsFirst faults' (f a)) :
    FailsFirst (faults ++ faults') (x >>= f) := by
  cases x with
  | error e =>
    obtain ⟨rest, rfl⟩ := List.head?_eq_some_iff.1 ((hx e).1 rfl)
    exact failsFirst_error e (rest ++ faults')
  | ok a =>
    obtain rfl := hx.exists_eq_ok_iff.1 ⟨a, rfl⟩
    exact hf a rfl

theorem map {f : α → β} (hx : FailsFirst faults x) : FailsFirst faults (x.map f) := by
  intro e
  rw [map_eq_error_iff]
  exact hx e

/-- A step for each item of a list looks for the faults of the items in order. -/
theorem mapM {faults : α → List ε} {f : α → Except ε β} (hf : ∀ a, FailsFirst (faults a) (f a)) :
    ∀ as : List α, FailsFirst (as.flatMap faults) (as.mapM f)
  | [] => failsFirst_ok _
  | a :: as => by
    rw [List.mapM_cons, List.flatMap_cons]
    refine (hf a).bind fun b _ => ?_
    have hrest := (mapM hf as).bind (f := fun bs => pure (b :: bs)) fun bs _ => failsFirst_ok _
    rwa [List.append_nil] at hrest

end FailsFirst

end ServiceCli
