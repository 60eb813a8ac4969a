import ServiceCli.Proofs.Request.Queries
import ServiceCli.Proofs.Text.Cuts
import ServiceCli.Proofs.Tree.Declared

/-!
# Full names

The full name of a declaration is the package of its file, the names of the messages around it and
its own, each after a dot (`Declarations.fullName`). `resolveReference_fullName` says that a
reference with a leading dot means the declaration of that full name and nothing else: where the
names of each scope can be told apart, every declaration is found under its full name, and whatever
is found, in any tree, has the names that follow the package in the reference.

`Declared` tells without a lookup what is declared where: the messages at the top, and what stands
in a declared message. `sites` lists exactly these (`mem_sites_iff`).
-/

namespace ServiceCli.Tree

open Proto Text Request

/-! ## What is declared where -/

/-- The names of the messages around a declaration, outermost first, and its own. -/
def Site.names (s : Site) : List String :=
  s.scope ++ [s.message.name]

/-- The message stands at the site, at the top or in a message that is declared. -/
inductive Declared (roots : List Message) : Site → Prop
  | top {i : Nat} {m : Message} : roots[i]? = some m → Declared roots ⟨[i], [], m⟩
  | nested {s : Site} {i : Nat} {m : Message} : Declared roots s → s.message.nested[i]? = some m →
    Declared roots ⟨s.position ++ [i], s.names, m⟩

mutual

theorem declared_of_mem_sitesOf {roots : List Message} {s : Site} :
    ∀ {m : Message} {scope : List String} {p : Position}, Declared roots ⟨p, scope, m⟩ →
      s ∈ sitesOf scope p m → Declared roots s
  | ⟨n, fs, ms, e⟩, scope, p, hm, h => by
    rw [sitesOf] at h
    rcases List.mem_cons.1 h with rfl | h
    · exact hm
    · refine declared_of_mem_sitesFrom (fun k m' hk => ?_) h
      rw [Nat.zero_add]
      exact hm.nested hk

theorem declared_of_mem_sitesFrom {roots : List Message} {s : Site} :
    ∀ {ms : List Message} {scope : List String} {outer : Position} {i : Nat},
      (∀ k m, ms[k]? = some m → Declared roots ⟨outer ++ [i + k], scope, m⟩) →
      s ∈ sitesFrom scope outer i ms → Declared roots s
  | [], scope, outer, i, _, h => by simp [sitesFrom] at h
  | m :: ms, scope, outer, i, hms, h => by
    rw [sitesFrom] at h
    rcases List.mem_append.1 h with h | h
    · exact declared_of_mem_sitesOf (hms 0 m rfl) h
    · refine declared_of_mem_sitesFrom (fun k m' hk => ?_) h
      rw [Nat.add_right_comm, Nat.add_assoc]
      exact hms (k + 1) m' hk

end

mutual

theorem sitesOf_subset_of_mem_sitesOf {s : Site} :
    ∀ {m : Message} {scope : List String} {p : Position}, s ∈ sitesOf scope p m →
      sitesOf s.scope s.position s.message ⊆ sitesOf scope p m
  | ⟨n, fs, ms, e⟩, scope, p, h => by
    rw [sitesOf] at h
    rcases List.mem_cons.1 h with rfl | h
    · exact List.Subset.refl _
    · have hsub := sitesOf_subset_of_mem_sitesFrom h
      rw [sitesOf]
      exact List.subset_cons_of_subset _ hsub

theorem sitesOf_subset_of_mem_sitesFrom {s : Site} :
    ∀ {ms : List Message} {scope : List String} {outer : Position} {i : Nat},
      s ∈ sitesFrom scope outer i ms →
      sitesOf s.scope s.position s.message ⊆ sitesFrom scope outer i ms
  | [], scope, outer, i, h => by simp [sitesFrom] at h
  | m :: ms, scope, outer, i, h => by
    rw [sitesFrom] at h ⊢
    rcases List.mem_append.1 h with h | h
    · exact List.subset_append_of_subset_left _ (sitesOf_subset_of_mem_sitesOf h)
    · exact List.subset_append_of_subset_right _ (sitesOf_subset_of_mem_sitesFrom h)

end

/-- The listing of a tree has every declaration and nothing else. -/
theorem mem_sites_iff {roots : List Message} {s : Site} : s ∈ sites roots ↔ Declared roots s := by
  constructor
  · refine declared_of_mem_sitesFrom fun k m hk => ?_
    rw [List.nil_append, Nat.zero_add]
    exact .top hk
  · intro h
    induction h with
    | @top i m hi =>
      have hsub := sitesOf_subset_sitesFrom [] [] 0 i roots hi
      rw [List.nil_append, Nat.zero_add] at hsub
      exact hsub (mem_sitesOf_self _ _ _)
    | @nested s i m _ hi ih =>
      have hsub := sitesOf_subset_sitesFrom s.names s.position 0 i s.message.nested hi
      rw [Nat.zero_add] at hsub
      exact sitesOf_subset_of_mem_sitesFrom ih
        (sitesFrom_nested_subset _ _ _ (hsub (mem_sitesOf_self _ _ _)))

theorem at?_concat {i : Nat} :
    ∀ {p : Position} {ms : List Message} {m : Message}, at? ms p = some m →
      at? ms (p ++ [i]) = m.nested[i]?
  | [], ms, m, h => by simp [at?] at h
  | [j], ms, m, h => by
    rw [at?] at h
    rw [List.singleton_append, at?, h]
    rfl
  | j :: k :: p, ms, m, h => by
    rw [at?] at h
    obtain ⟨m', hm', h⟩ := Option.bind_eq_some_iff.1 h
    have ih : at? m'.nested (k :: p ++ [i]) = m.nested[i]? := at?_concat h
    rw [List.cons_append, List.cons_append, at?, hm']
    exact ih

/-- A declaration is the one at its position. -/
theorem Declared.at?_position {roots : List Message} {s : Site} (h : Declared roots s) :
    at? roots s.position = some s.message := by
  induction h with
  | top hi => exact hi
  | nested _ hi ih => rw [at?_concat ih, hi]

/-! ## Walks by name -/

/-- The names in one scope: each is a name, and no two declarations have the same. -/
structure ScopeNamed (ms : List Message) : Prop where
  nodup : (ms.map Message.name).Nodup
  proper : ∀ m ∈ ms, m.name ≠ "" ∧ '.' ∉ m.name.toList

/-- The names of each scope of a tree can be told apart. -/
def WellNamed (roots : List Message) : Prop :=
  ScopeNamed roots ∧ ∀ s ∈ sites roots, ScopeNamed s.message.nested

theorem firstNamed_of_nodup {m : Message} :
    ∀ {i k : Nat} {ms : List Message}, (ms.map Message.name).Nodup → ms[k]? = some m →
      firstNamed m.name i ms = some (i + k, m)
  | i, k, [], _, h => by simp at h
  | i, 0, m' :: ms, _, h => by
    obtain rfl : m' = m := by simpa using h
    simp [firstNamed]
  | i, k + 1, m' :: ms, hd, h => by
    rw [List.map_cons, List.nodup_cons] at hd
    rw [List.getElem?_cons_succ] at h
    have hne : m'.name ≠ m.name := by
      intro he
      exact hd.1 (he ▸ List.mem_map_of_mem (List.mem_of_getElem? h))
    rw [firstNamed, if_neg hne, firstNamed_of_nodup hd.2 h, Nat.add_assoc, Nat.add_comm 1 k]

/-- A walk by several names goes on in the message of the first one. -/
theorem walk_cons {name next : String} {names scope : List String} {outer : Position}
    {ms : List Message} {i : Nat} {m : Message} (h : firstNamed name 0 ms = some (i, m)) :
    walk scope outer ms (name :: next :: names) =
      walk (scope ++ [m.name]) (outer ++ [i]) m.nested (next :: names) := by
  rw [walk, h]
  rfl

/-- A walk by one more name goes on in the declaration that was found. -/
theorem walk_concat {s : Site} {last : String} :
    ∀ {names scope : List String} {outer : Position} {ms : List Message},
      walk scope outer ms names = some s →
      walk scope outer ms (names ++ [last]) = walk s.names s.position s.message.nested [last]
  | [], scope, outer, ms, h => by simp [walk] at h
  | [name], scope, outer, ms, h => by
    rw [walk] at h
    obtain ⟨⟨i, m⟩, hf, rfl⟩ := Option.map_eq_some_iff.1 h
    exact walk_cons hf
  | name :: next :: names, scope, outer, ms, h => by
    rw [walk] at h
    obtain ⟨⟨i, m⟩, hf, hw⟩ := Option.bind_eq_some_iff.1 h
    have ih : walk (scope ++ [m.name]) (outer ++ [i]) m.nested (next :: names ++ [last])
        = walk s.names s.position s.message.nested [last] := walk_concat hw
    rw [List.cons_append, List.cons_append, walk_cons hf]
    exact ih

/-- The walk along the names of a declaration ends there. -/
theorem walk_names {roots : List Message} (hn : WellNamed roots) {s : Site}
    (h : Declared roots s) : walk [] [] roots s.names = some s := by
  induction h with
  | @top i m hi =>
    have hfirst := firstNamed_of_nodup (i := 0) hn.1.nodup hi
    simp [Site.names, walk, hfirst]
  | @nested s i m hs hi ih =>
    have hscope := hn.2 s (mem_sites_iff.2 hs)
    have hfirst := firstNamed_of_nodup (i := 0) hscope.nodup hi
    have hnames : Site.names ⟨s.position ++ [i], s.names, m⟩ = s.names ++ [m.name] := rfl
    rw [hnames, walk_concat ih, walk, hfirst]
    simp

theorem proper_of_mem_names {roots : List Message} (hn : WellNamed roots) {s : Site}
    (h : Declared roots s) : ∀ name ∈ s.names, name ≠ "" ∧ '.' ∉ name.toList := by
  induction h with
  | top hi =>
    intro name hname
    obtain rfl := List.mem_singleton.1 hname
    exact hn.1.proper _ (List.mem_of_getElem? hi)
  | @nested s i m hs hi ih =>
    intro name hname
    rcases List.mem_append.1 hname with hname | hname
    · exact ih name hname
    · obtain rfl := List.mem_singleton.1 hname
      exact (hn.2 s (mem_sites_iff.2 hs)).proper _ (List.mem_of_getElem? hi)

/-! ## References with a leading dot -/

theorem keyNames_dot (rest : String) : keyNames ("." ++ rest) = keyNames rest := by
  have hpieces : pieces '.' ("." ++ rest) = "" :: pieces '.' rest := by
    have h : pieces '.' ("" ++ "." ++ rest) = pieces '.' "" ++ pieces '.' rest :=
      pieces_append rfl "" rest
    rwa [String.empty_append] at h
  rw [keyNames, keyNames, hpieces, List.filter_cons_of_neg (by simp)]

theorem keyNames_intercalate {names : List String} (hne : names ≠ [])
    (h : ∀ name ∈ names, name ≠ "" ∧ '.' ∉ name.toList) :
    keyNames (String.intercalate "." names) = names := by
  rw [keyNames, pieces_intercalate rfl hne fun name hname => (h name hname).2]
  exact List.filter_eq_self.2 fun name hname => bne_iff_ne.2 (h name hname).1

namespace Declarations

/-- What a reference with a leading dot starts with if it is one into this package. -/
def lead (d : Declarations) : String :=
  if d.package = "" then "." else "." ++ d.package ++ "."

/-- The full name of a declaration. -/
def fullName (d : Declarations) (s : Site) : String :=
  d.lead ++ String.intercalate "." s.names

variable {d : Declarations} {ref rest : String} {s : Site}

/-- The relative part of a reference with a leading dot is what follows the package. -/
theorem relativePart_eq_some_iff (href : isExact ref) :
    relativePart d.package ref = some rest ↔ ref = d.lead ++ rest := by
  obtain ⟨qualified, hq⟩ := Option.isSome_iff_exists.1 href
  obtain rfl := afterLead_eq_some_iff.1 hq
  rw [relativePart, hq, lead]
  dsimp only
  split
  · simp
  · simp [Option.bind_eq_some_iff, afterLead_eq_some_iff, String.append_assoc]

theorem isExact_lead (rest : String) : isExact (d.lead ++ rest) := by
  unfold lead
  split
  · exact isExact_append rest
  · rw [String.append_assoc, String.append_assoc]
    exact isExact_append _

/-- A reference with a leading dot is walked by the names that follow the package. -/
theorem reference_eq_some_iff (href : isExact ref) :
    d.reference ref = some s ↔
      ∃ rest, ref = d.lead ++ rest ∧ walk [] [] d.roots (keyNames rest) = some s := by
  have hkey : ∀ rest, relativePart d.package ref = some rest →
      d.reference ref = walk [] [] d.roots (keyNames rest) := by
    intro rest hrest
    rw [reference, key?, hrest, Option.bind_some]
    split
    · next hempty =>
      have hnames : keyNames rest = [] := by
        rw [hempty]
        rfl
      rw [hnames, walk, Option.bind_none]
    · rw [Option.bind_some, resolve_of_isExact (isExact_append rest), keyNames_dot]
  constructor
  · intro h
    obtain ⟨key, hk, -⟩ := Option.bind_eq_some_iff.1 h
    obtain ⟨rest, hrest, -⟩ := Option.bind_eq_some_iff.1 hk
    refine ⟨rest, (relativePart_eq_some_iff href).1 hrest, ?_⟩
    rw [← hkey rest hrest, h]
  · rintro ⟨rest, hrest, hw⟩
    rw [hkey rest ((relativePart_eq_some_iff href).2 hrest), hw]

theorem reference_fullName (hn : WellNamed d.roots) (h : Declared d.roots s) :
    d.reference (d.fullName s) = some s := by
  have hnames : keyNames (String.intercalate "." s.names) = s.names :=
    keyNames_intercalate (by simp [Site.names]) (proper_of_mem_names hn h)
  refine (reference_eq_some_iff (isExact_lead _)).2 ⟨_, rfl, ?_⟩
  rw [hnames, walk_names hn h]

/-- Whatever was looked up before: if the names of each scope can be told apart, every declaration
is found under its full name, and it is nested exactly if messages are around it. In any tree, what
a reference with a leading dot finds is declared under the names that follow the package in it. -/
theorem resolveReference_fullName (d : Declarations) (before : List Query) :
    (WellNamed d.roots → ∀ s ∈ sites d.roots,
      ((d.resolveReference (d.fullName s)).run (logAfter d before)).1 = some s ∧
        (s.nested ↔ 0 < s.scope.length)) ∧
      ∀ ref s, isExact ref → ((d.resolveReference ref).run (logAfter d before)).1 = some s →
        ∃ rest, ref = d.lead ++ rest ∧ s.scope ++ [s.message.name] = keyNames rest ∧
          s ∈ sites d.roots ∧ at? d.roots s.position = some s.message := by
  have hfresh : ∀ ref, ((d.resolveReference ref).run (logAfter d before)).1 = d.reference ref :=
    fun ref => (yields_resolveReference ref).fst_run (faithful_logAfter d before)
  constructor
  · intro hn s hs
    refine ⟨?_, by simp [Site.nested, List.length_pos_iff]⟩
    rw [hfresh, reference_fullName hn (mem_sites_iff.1 hs)]
  · intro ref s href h
    rw [hfresh] at h
    obtain ⟨rest, rfl, hw⟩ := (reference_eq_some_iff href).1 h
    have hs : s ∈ sites d.roots := mem_sitesFrom_of_walk hw
    exact ⟨rest, rfl, by simpa using names_of_walk hw, hs, (mem_sites_iff.1 hs).at?_position⟩

/-- A message that holds one of its own name two levels deeper. -/
def echo : Declarations where
  package := "a.b"
  roots := [{ name := "A", nested := [{ name := "B", nested := [{ name := "A" }] }] }]

/-- The inner one of the two is found under its full name. -/
theorem echo_inner :
    WellNamed echo.roots ∧ ⟨[0, 0, 0], ["A", "B"], { name := "A" }⟩ ∈ sites echo.roots ∧
      isExact ".a.b.A.B.A" ∧
      ((echo.resolveReference ".a.b.A.B.A").run (logAfter echo [.key "A"])).1
        = some ⟨[0, 0, 0], ["A", "B"], { name := "A" }⟩ ∧
      ∃ rest, ".a.b.A.B.A" = echo.lead ++ rest ∧ ["A", "B"] ++ ["A"] = keyNames rest := by
  have hnamed : WellNamed echo.roots := by
    have hscope : ∀ s ∈ sites echo.roots, (s.message.nested.map Message.name).Nodup ∧
        ∀ m ∈ s.message.nested, m.name ≠ "" ∧ '.' ∉ m.name.toList := by decide
    exact ⟨⟨by decide, by decide⟩, fun s hs => ⟨(hscope s hs).1, (hscope s hs).2⟩⟩
  have hs : ⟨[0, 0, 0], ["A", "B"], { name := "A" }⟩ ∈ sites echo.roots := by decide
  have hexact : isExact ".a.b.A.B.A" := by decide
  obtain ⟨hfind, hsound⟩ := resolveReference_fullName echo [.key "A"]
  have hfound := (hfind hnamed _ hs).1
  have hname : echo.fullName ⟨[0, 0, 0], ["A", "B"], { name := "A" }⟩ = ".a.b.A.B.A" := by decide
  rw [hname] at hfound
  obtain ⟨rest, hrest, hnames, -⟩ := hsound _ _ hexact hfound
  exact ⟨hnamed, hs, hexact, hfound, rest, hrest, hnames⟩

end Declarations

end ServiceCli.Tree
