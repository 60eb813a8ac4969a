import ServiceCli.Tree.Lookup

/-!
# What a lookup finds is declared

However a type is looked up, what is found is one of the declarations of the file, at its
position and with the names of the messages around it (`mem_sites_of_resolve`). A property of all
declarations of a file therefore holds of every declaration that its fields refer to. What a key
with a leading dot finds has the names in the key, and its name in Go is made of them
(`goName_of_resolve`).
-/

namespace ServiceCli.Tree

open Proto Text

theorem firstNamed_eq_some {name : String} :
    ∀ {i j : Nat} {ms : List Message} {m : Message}, firstNamed name i ms = some (j, m) →
      m.name = name ∧ ∃ k, j = i + k ∧ ms[k]? = some m
  | i, j, [], m, h => by simp [firstNamed] at h
  | i, j, m' :: ms, m, h => by
    rw [firstNamed] at h
    split at h
    · next hn =>
      obtain ⟨rfl, rfl⟩ : i = j ∧ m' = m := by simpa using h
      exact ⟨hn, 0, rfl, rfl⟩
    · obtain ⟨hn, k, rfl, hk⟩ := firstNamed_eq_some h
      exact ⟨hn, k + 1, by omega, by simpa using hk⟩

theorem mem_sitesOf_self (scope : List String) (p : Position) (m : Message) :
    ⟨p, scope, m⟩ ∈ sitesOf scope p m := by
  obtain ⟨n, fs, ms, e⟩ := m
  simp [sitesOf]

theorem sitesFrom_nested_subset (scope : List String) (p : Position) (m : Message) :
    sitesFrom (scope ++ [m.name]) p 0 m.nested ⊆ sitesOf scope p m := by
  obtain ⟨n, fs, ms, e⟩ := m
  exact List.subset_cons_self _ _

theorem sitesOf_subset_sitesFrom (scope : List String) (outer : Position) :
    ∀ (i k : Nat) (ms : List Message) {m : Message}, ms[k]? = some m →
      sitesOf scope (outer ++ [i + k]) m ⊆ sitesFrom scope outer i ms
  | i, k, [], m, h => by simp at h
  | i, 0, m' :: ms, m, h => by
    obtain rfl : m' = m := by simpa using h
    rw [sitesFrom]
    exact List.subset_append_left _ _
  | i, k + 1, m' :: ms, m, h => by
    have hsub := sitesOf_subset_sitesFrom scope outer (i + 1) k ms (by simpa using h)
    rw [show i + 1 + k = i + (k + 1) by omega] at hsub
    rw [sitesFrom]
    exact List.subset_append_of_subset_right _ hsub

/-- A walk ends at a declaration below the messages that it starts from. -/
theorem mem_sitesFrom_of_walk {s : Site} :
    ∀ {names : List String} {scope : List String} {outer : Position} {ms : List Message},
      walk scope outer ms names = some s → s ∈ sitesFrom scope outer 0 ms
  | [], scope, outer, ms, h => by simp [walk] at h
  | [last], scope, outer, ms, h => by
    rw [walk] at h
    obtain ⟨⟨i, m⟩, hf, rfl⟩ := Option.map_eq_some_iff.1 h
    obtain ⟨-, k, rfl, hk⟩ := firstNamed_eq_some hf
    exact sitesOf_subset_sitesFrom scope outer 0 k ms hk (mem_sitesOf_self _ _ _)
  | name :: next :: names, scope, outer, ms, h => by
    rw [walk] at h
    obtain ⟨⟨i, m⟩, hf, hw⟩ := Option.bind_eq_some_iff.1 h
    obtain ⟨-, k, rfl, hk⟩ := firstNamed_eq_some hf
    have hs : s ∈ sitesFrom (scope ++ [m.name]) (outer ++ [0 + k]) 0 m.nested :=
      mem_sitesFrom_of_walk hw
    exact sitesOf_subset_sitesFrom scope outer 0 k ms hk (sitesFrom_nested_subset _ _ _ hs)

mutual

theorem mem_sitesOf_of_searchIn {name : String} {s : Site} :
    ∀ {m : Message} {scope : List String} {p : Position},
      searchIn name scope p m = some s → s ∈ sitesOf scope p m
  | ⟨n, fs, ms, e⟩, scope, p, h => by
    rw [searchIn] at h
    rw [sitesOf]
    split at h
    · obtain rfl := Option.some.inj h
      exact List.mem_cons_self
    · exact List.mem_cons_of_mem _ (mem_sitesFrom_of_searchFrom h)

theorem mem_sitesFrom_of_searchFrom {name : String} {s : Site} :
    ∀ {ms : List Message} {scope : List String} {outer : Position} {i : Nat},
      searchFrom name scope outer i ms = some s → s ∈ sitesFrom scope outer i ms
  | [], scope, outer, i, h => by simp [searchFrom] at h
  | m :: ms, scope, outer, i, h => by
    rw [searchFrom] at h
    rw [sitesFrom, List.mem_append]
    split at h
    · next t ht =>
      obtain rfl := Option.some.inj h
      exact Or.inl (mem_sitesOf_of_searchIn ht)
    · exact Or.inr (mem_sitesFrom_of_searchFrom h)

end

/-- Whatever a key finds is one of the declarations. -/
theorem mem_sites_of_resolve {roots : List Message} {key : String} {s : Site}
    (h : resolve roots key = some s) : s ∈ sites roots := by
  unfold resolve at h
  split at h
  · simp at h
  · split at h
    · exact mem_sitesFrom_of_walk h
    · exact mem_sitesFrom_of_searchFrom h
  · exact mem_sitesFrom_of_walk h

/-! ## The names of what is found -/

/-- A walk finds a declaration of these names. -/
theorem names_of_walk {s : Site} :
    ∀ {names scope : List String} {outer : Position} {ms : List Message},
      walk scope outer ms names = some s → s.scope ++ [s.message.name] = scope ++ names
  | [], scope, outer, ms, h => by simp [walk] at h
  | [last], scope, outer, ms, h => by
    rw [walk] at h
    obtain ⟨⟨i, m⟩, hf, rfl⟩ := Option.map_eq_some_iff.1 h
    rw [(firstNamed_eq_some hf).1]
  | name :: next :: names, scope, outer, ms, h => by
    rw [walk] at h
    obtain ⟨⟨i, m⟩, hf, hw⟩ := Option.bind_eq_some_iff.1 h
    rw [names_of_walk hw, (firstNamed_eq_some hf).1]
    simp

/-- The name of a type in Go is made of the names of the messages around it and its own. -/
theorem goName_eq (s : Site) :
    s.goName = String.intercalate "_" (s.scope ++ [s.message.name]) := by
  rw [Site.goName, Site.typePrefix]
  generalize s.message.name = last
  induction s.scope with
  | nil => simp [Site.prefixOf, String.join]
  | cons name scope ih =>
    rw [List.cons_append, String.intercalate_cons_of_ne_nil (by simp), ← ih]
    simp [Site.prefixOf, String.append_assoc]

theorem isExact_append (rest : String) : isExact ("." ++ rest) := by
  rw [isExact, afterLead_eq_some_iff.2 rfl]
  rfl

/-- A key with a leading dot is walked name by name. -/
theorem resolve_of_isExact {roots : List Message} {key : String} (h : isExact key) :
    resolve roots key = walk [] [] roots (keyNames key) := by
  unfold resolve
  split
  · next hnames => rw [hnames, walk]
  · next hnames => rw [if_pos h, hnames]
  · rfl

/-- What is found under a key with a leading dot has the names in the key. -/
theorem goName_of_resolve {roots : List Message} {key : String} {s : Site} (hkey : isExact key)
    (h : resolve roots key = some s) : s.goName = String.intercalate "_" (keyNames key) := by
  rw [resolve_of_isExact hkey] at h
  rw [goName_eq, names_of_walk h, List.nil_append]

namespace Declarations

theorem mem_sites_of_reference (d : Declarations) {ref : String} {s : Site}
    (h : d.reference ref = some s) : s ∈ sites d.roots := by
  obtain ⟨key, -, hk⟩ := Option.bind_eq_some_iff.1 h
  exact mem_sites_of_resolve hk

/-- A reference with a leading dot has a key with one. -/
theorem isExact_of_key? {d : Declarations} {ref key : String} (href : isExact ref)
    (h : d.key? ref = some key) : isExact key := by
  obtain ⟨rest, -, hrest⟩ := Option.bind_eq_some_iff.1 h
  obtain ⟨-, hkey⟩ := Option.ite_none_left_eq_some.1 hrest
  rw [if_pos href] at hkey
  rw [← Option.some.inj hkey]
  exact isExact_append rest

/-- A field refers to a declaration of its own file or to none. -/
theorem mem_sites_of_field (d : Declarations) {f : Field} {s : Site}
    (h : d.field f = some s) : s ∈ sites d.roots := by
  obtain ⟨ref, -, hr⟩ := Option.bind_eq_some_iff.1 h
  exact d.mem_sites_of_reference hr

end Declarations

end ServiceCli.Tree
