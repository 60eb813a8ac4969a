import ServiceCli.Proofs.Tree.Preorder

/-!
# Appended declarations

Messages may be declared after those of a tree. The declarations of the tree keep their positions
then, and those of the appended messages come after them, behind as many top-level messages
(`sites_append`). A search looks through the tree first, and a walk enters the first message of a
name at the top level, so whatever a key finds in the tree it finds in the extended tree, and a key
that finds nothing in the tree can only find something appended (`resolve_append`).

A walk does not look for another way. A key whose first name is that of a message in the tree finds
nothing that is appended, even if it finds nothing in the tree.
-/

namespace ServiceCli.Tree

open Proto

/-- The declaration when its tree stands behind `n` more top-level messages. -/
def Site.behind (n : Nat) (s : Site) : Site :=
  { s with position := s.position.modifyHead (n + ·) }

/-- Of a lookup, the answer of a tree of `n` messages counts. If it has none, the extended tree has
either none or that of the appended messages. -/
def Extends (n : Nat) (answer appended extended : Option Site) : Prop :=
  extended = answer ∨ answer = none ∧ extended = appended.map (Site.behind n)

/-! ## The declarations of the extended tree -/

mutual

theorem sitesOf_behind (n i : Nat) : ∀ (m : Message) (scope : List String) (p : Position),
    sitesOf scope ((n + i) :: p) m = (sitesOf scope (i :: p) m).map (Site.behind n)
  | ⟨name, fs, ms, e⟩, scope, p => by
    rw [sitesOf, sitesOf, List.map_cons, sitesFrom_behind n i ms]
    rfl

theorem sitesFrom_behind (n i : Nat) :
    ∀ (ms : List Message) (scope : List String) (p : Position) (k : Nat),
      sitesFrom scope ((n + i) :: p) k ms = (sitesFrom scope (i :: p) k ms).map (Site.behind n)
  | [], scope, p, k => by simp [sitesFrom]
  | m :: ms, scope, p, k => by
    rw [sitesFrom, sitesFrom, List.map_append, sitesFrom_behind n i ms, List.cons_append,
      sitesOf_behind n i m, List.cons_append]

end

/-- Top-level messages are numbered from their place in the list on. -/
theorem sitesFrom_top_behind (n : Nat) :
    ∀ (ms : List Message) (i : Nat),
      sitesFrom [] [] (n + i) ms = (sitesFrom [] [] i ms).map (Site.behind n)
  | [], i => by simp [sitesFrom]
  | m :: ms, i => by
    rw [sitesFrom, sitesFrom, List.map_append, Nat.add_assoc, sitesFrom_top_behind n ms,
      List.nil_append, sitesOf_behind n i m, List.nil_append]

theorem sitesFrom_append (scope : List String) (outer : Position) (more : List Message) :
    ∀ (ms : List Message) (i : Nat), sitesFrom scope outer i (ms ++ more) =
      sitesFrom scope outer i ms ++ sitesFrom scope outer (i + ms.length) more
  | [], i => by simp [sitesFrom]
  | m :: ms, i => by
    rw [List.cons_append, sitesFrom, sitesFrom, sitesFrom_append scope outer more ms,
      List.append_assoc, List.length_cons, Nat.add_assoc, Nat.add_comm 1]

/-- The declarations of the tree keep their places, and the appended ones come behind them. -/
theorem sites_append (roots more : List Message) :
    sites (roots ++ more) = sites roots ++ (sites more).map (Site.behind roots.length) := by
  have htop := sitesFrom_top_behind roots.length more 0
  rw [sites, sitesFrom_append, Nat.zero_add, ← Nat.add_zero roots.length, htop]
  rfl

/-! ## Lookups in the extended tree -/

theorem search_append (name : String) (roots more : List Message) :
    search name (roots ++ more) =
      (search name roots).or ((search name more).map (Site.behind roots.length)) := by
  simp only [search_eq_find?, sites_append, List.find?_append, List.find?_map]
  rfl

theorem firstNamed_append (name : String) (more : List Message) :
    ∀ (ms : List Message) (i : Nat), firstNamed name i (ms ++ more) =
      (firstNamed name i ms).or (firstNamed name (i + ms.length) more)
  | [], i => by simp [firstNamed]
  | m :: ms, i => by
    have ih := firstNamed_append name more ms (i + 1)
    rw [List.cons_append, firstNamed, firstNamed, List.length_cons]
    split
    · rfl
    · rw [ih, Nat.add_assoc, Nat.add_comm 1]

theorem firstNamed_add (name : String) (n : Nat) :
    ∀ (ms : List Message) (i : Nat),
      firstNamed name (n + i) ms = (firstNamed name i ms).map fun (j, m) => (n + j, m)
  | [], i => rfl
  | m :: ms, i => by
    rw [firstNamed, firstNamed]
    split
    · rfl
    · exact firstNamed_add name n ms (i + 1)

/-- What is left of a walk when it has come to a message. -/
def walkOn (scope : List String) (p : Position) (m : Message) : List String → Option Site
  | [] => some ⟨p, scope, m⟩
  | name :: names => walk (scope ++ [m.name]) p m.nested (name :: names)

theorem walk_eq_bind (scope : List String) (outer : Position) (ms : List Message) (name : String)
    (names : List String) : walk scope outer ms (name :: names) =
      (firstNamed name 0 ms).bind fun (i, m) => walkOn scope (outer ++ [i]) m names := by
  cases names with
  | nil =>
    rw [walk, Option.map_eq_bind]
    rfl
  | cons next names =>
    rw [walk]
    rfl

mutual

theorem walk_behind (n i : Nat) :
    ∀ (names : List String) (scope : List String) (p : Position) (ms : List Message),
      walk scope ((n + i) :: p) ms names = (walk scope (i :: p) ms names).map (Site.behind n)
  | [], scope, p, ms => by simp [walk]
  | name :: names, scope, p, ms => by
    rw [walk_eq_bind, walk_eq_bind, Option.map_bind]
    refine congrArg _ (funext fun (j, m) => ?_)
    exact walkOn_behind n i names scope (p ++ [j]) m

theorem walkOn_behind (n i : Nat) :
    ∀ (names : List String) (scope : List String) (p : Position) (m : Message),
      walkOn scope ((n + i) :: p) m names = (walkOn scope (i :: p) m names).map (Site.behind n)
  | [], scope, p, m => rfl
  | name :: names, scope, p, m => walk_behind n i (name :: names) _ p _

end

theorem search_extends (name : String) (roots more : List Message) :
    Extends roots.length (search name roots) (search name more) (search name (roots ++ more)) := by
  rw [search_append]
  cases search name roots with
  | none => exact Or.inr ⟨rfl, rfl⟩
  | some s => exact Or.inl rfl

/-- The first name decides whether the tree is walked or what is appended. -/
theorem walk_extends (names : List String) (roots more : List Message) :
    Extends roots.length (walk [] [] roots names) (walk [] [] more names)
      (walk [] [] (roots ++ more) names) := by
  cases names with
  | nil => exact Or.inl (by simp [walk])
  | cons name names =>
    rw [walk_eq_bind, walk_eq_bind, walk_eq_bind, firstNamed_append]
    cases hfirst : firstNamed name 0 roots with
    | some entry => exact Or.inl rfl
    | none =>
      refine Or.inr ⟨rfl, ?_⟩
      have hadd := firstNamed_add name roots.length more 0
      rw [Option.none_or, Nat.zero_add, ← Nat.add_zero roots.length, hadd, Option.map_bind,
        Option.bind_map, Nat.add_zero]
      exact congrArg _ (funext fun (j, m) => walkOn_behind roots.length j names [] [] m)

/-- The answer of the tree to a key counts. If there is none, what is found is appended. -/
theorem resolve_append (roots more : List Message) (key : String) :
    Extends roots.length (resolve roots key) (resolve more key) (resolve (roots ++ more) key) := by
  unfold resolve
  split
  · exact Or.inl rfl
  · split
    · exact walk_extends _ roots more
    · exact search_extends _ roots more
  · exact walk_extends _ roots more

namespace Declarations

/-- The declarations with more messages after them. -/
def extended (d : Declarations) (more : List Message) : Declarations :=
  { d with roots := d.roots ++ more }

variable {d : Declarations} {key : String}

/-- What a key finds in the tree it finds in the extended one. -/
theorem resolve_extended_of_isSome (h : (resolve d.roots key).isSome) (more : List Message) :
    resolve (d.extended more).roots key = resolve d.roots key := by
  rcases resolve_append d.roots more key with heq | ⟨hnone, -⟩
  · exact heq
  · rw [hnone] at h
    cases h

/-- What a key finds in the extended tree only is appended. -/
theorem exists_behind_of_resolve {more : List Message} {t : Site} (h : resolve d.roots key = none)
    (ht : resolve (d.extended more).roots key = some t) :
    ∃ s ∈ sites more, t = s.behind d.roots.length := by
  rcases resolve_append d.roots more key with heq | ⟨-, happended⟩
  · rw [extended, heq, h] at ht
    cases ht
  · rw [extended, happended] at ht
    obtain ⟨s, hs, rfl⟩ := Option.map_eq_some_iff.1 ht
    exact ⟨s, mem_sites_of_resolve hs, rfl⟩

end Declarations

end ServiceCli.Tree
