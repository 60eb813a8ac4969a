import Mathlib.Data.List.Forall2

/-!
# Lists whose members correspond

Where the members of two lists correspond in order, what is computed from them is the same
(`map_eq_of_forall₂`), and a list made from another one member by member corresponds to it
(`forall₂_iff_eq_map`, `forall₂_filter_filterMap`).
-/

namespace ServiceCli

variable {α β γ : Type}

/-! ## Values of corresponding members -/

theorem map_eq_of_forall₂ {k : α → γ} {g : β → γ} {as : List α} {bs : List β}
    (h : List.Forall₂ (fun a b => g b = k a) as bs) : bs.map g = as.map k := by
  rw [← List.forall₂_eq_eq_eq, List.forall₂_map_left_iff, List.forall₂_map_right_iff]
  exact h.flip

/-- Where each member has one counterpart only, so has the whole list. -/
theorem forall₂_iff_eq_map {R : α → β → Prop} {g : α → β} (h : ∀ {a b}, R a b ↔ b = g a)
    {as : List α} {bs : List β} : List.Forall₂ R as bs ↔ bs = as.map g := by
  have hrel : R = fun a b => g a = b := by
    funext a b
    exact propext (h.trans eq_comm)
  rw [hrel, ← List.forall₂_map_left_iff, List.forall₂_eq_eq_eq, eq_comm]

theorem filterMap_eq_of_forall₂ {k : α → Option γ} {g : β → Option γ} {as : List α} {bs : List β}
    (h : List.Forall₂ (fun a b => g b = k a) as bs) : bs.filterMap g = as.filterMap k := by
  induction h with
  | nil => rfl
  | cons hab _ ih => rw [List.filterMap_cons, List.filterMap_cons, hab, ih]

theorem flatMap_eq_of_forall₂ {k : α → List γ} {g : β → List γ} {as : List α} {bs : List β}
    (h : List.Forall₂ (fun a b => g b = k a) as bs) : bs.flatMap g = as.flatMap k := by
  induction h with
  | nil => rfl
  | cons hab _ ih => rw [List.flatMap_cons, List.flatMap_cons, hab, ih]

theorem exists_of_mem_of_forall₂ {R : α → β → Prop} {as : List α} {bs : List β}
    (h : List.Forall₂ R as bs) {b : β} (hb : b ∈ bs) : ∃ a ∈ as, R a b := by
  induction h with
  | nil => cases hb
  | cons hab _ ih =>
    rcases List.mem_cons.1 hb with rfl | hb
    · exact ⟨_, List.mem_cons_self, hab⟩
    · obtain ⟨a, ha, hr⟩ := ih hb
      exact ⟨a, List.mem_cons_of_mem _ ha, hr⟩

theorem exists_map_of_forall₂ {R : α → γ → Prop} {g : γ → β} {as : List α} {bs : List β}
    (h : List.Forall₂ (fun a b => ∃ c, b = g c ∧ R a c) as bs) :
    ∃ cs, bs = cs.map g ∧ List.Forall₂ R as cs := by
  induction h with
  | nil => exact ⟨[], rfl, .nil⟩
  | cons hab _ ih =>
    obtain ⟨c, rfl, hc⟩ := hab
    obtain ⟨cs, rfl, hcs⟩ := ih
    exact ⟨c :: cs, rfl, .cons hc hcs⟩

/-- What is made from some members of a list corresponds to those. -/
theorem forall₂_filter_filterMap {R : α → β → Prop} {p : α → Bool} {g : α → Option β} :
    ∀ {as : List α}, (∀ a ∈ as, p a → ∃ b, g a = some b ∧ R a b) →
      (∀ a ∈ as, p a = false → g a = none) → List.Forall₂ R (as.filter p) (as.filterMap g)
  | [], _, _ => .nil
  | a :: as, hsome, hnone => by
    have hrest : List.Forall₂ R (as.filter p) (as.filterMap g) := forall₂_filter_filterMap
      (fun b hb => hsome b (List.mem_cons_of_mem _ hb))
      fun b hb => hnone b (List.mem_cons_of_mem _ hb)
    cases h : p a with
    | true =>
      obtain ⟨b, hb, hab⟩ := hsome a List.mem_cons_self h
      rw [List.filter_cons_of_pos h, List.filterMap_cons_some hb]
      exact .cons hab hrest
    | false =>
      rw [List.filter_cons_of_neg (by simp [h]),
        List.filterMap_cons_none (hnone a List.mem_cons_self h)]
      exact hrest

end ServiceCli
