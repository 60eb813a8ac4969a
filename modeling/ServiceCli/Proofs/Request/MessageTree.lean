import ServiceCli.Proofs.Paired
import ServiceCli.Proofs.Request.Allocated
import ServiceCli.Proofs.Tree.Preorder

/-!
# What a skeleton allocates

The skeleton of a request is a tree, and each of its nodes stands for a message that is reached from
the request along fields that hold a single message (`StandsFor`). `skeleton_is_messageTree` says
what such a node holds: an entry for each field that has one (`hasEntry`), in the order of the
fields, with an empty list or with the next message (`EntryFor`). Nothing is left empty, except that
a request which is asked for too deep is nothing at all. As in `Allocated`, no message may have two
fields of one name in Go.
-/

namespace ServiceCli.Request

open Proto ServiceCli.Tree

/-! ## Nodes of a skeleton -/

/-- The parts of a skeleton: itself and the values of the fields in its parts. -/
inductive Skeleton.HasPart (root : Skeleton) : Skeleton → Prop
  | self : HasPart root root
  | value {typeName name : String} {entries : List (String × Skeleton)} {v : Skeleton} :
    HasPart root (.construct typeName entries) → (name, v) ∈ entries → HasPart root v

/-- In the skeleton `root` of the request `s` the value `v` stands for the message at a site. Fields
that hold a single message lead to it through the messages at `outer`, innermost first. -/
inductive StandsFor (d : Declarations) (s : Site) (root : Skeleton) :
    (outer : List Site) → Site → (v : Skeleton) → Prop
  | request : StandsFor d s root [] s root
  | field {outer : List Site} {t u : Site} {typeName : String} {entries : List (String × Skeleton)}
    {f : Field} {v : Skeleton} : StandsFor d s root outer t (.construct typeName entries) →
    f ∈ t.message.fields → f.holdsMessage → ¬f.isRepeated → d.field f = some u →
    (f.goName, v) ∈ entries → StandsFor d s root (t :: outer) u v

/-- Whether a field of the message `t`, reached through those at `outer`, has an entry. It refers to
a declaration that is no map entry, and holds a list, or a single message that is neither `t` nor on
the way to it and lies within the depth that is left. -/
def hasEntry (d : Declarations) (depth : Nat) (outer : List Site) (t : Site) (f : Field) : Bool :=
  f.holdsMessage && (d.field f).any fun u => !u.message.mapEntry &&
    (f.isRepeated || !((t :: outer).map Site.position).contains u.position &&
      outer.length < maxDepth - depth)

/-- The name of a type in Go: the names of the messages around its declaration and its own. -/
def typeNameOf (d : Declarations) (s : Site) : String :=
  String.intercalate "_" ((enclosing d.roots s.position).map Message.name ++ [s.message.name])

/-- The entry of a field: an empty list for a list, and the message for a single one. -/
inductive EntryFor (d : Declarations) (f : Field) : String × Skeleton → Prop
  | list {u : Site} : f.isRepeated → d.field f = some u →
    EntryFor d f (f.goName, .emptyList (typeNameOf d u))
  | message {u : Site} {entries : List (String × Skeleton)} : ¬f.isRepeated →
    d.field f = some u → EntryFor d f (f.goName, .construct (typeNameOf d u) entries)

theorem goName_eq_typeNameOf {d : Declarations} {s : Site} (hs : s ∈ sites d.roots) :
    s.goName = typeNameOf d s := by
  rw [goName_eq, typeNameOf, (mem_sites_iff.1 hs).scope_eq]

/-! ## Entries in the order of the fields -/

section Entries

variable {d : Declarations} {depth room : Nat} {outer : List Site} {active : List Position}
  {t u : Site} {f : Field}

/-- The skeletons of the messages below, to a depth. -/
def skeletonsBelow (d : Declarations) (room : Nat) (active : List Position) (s : Site) : Skeleton :=
  skeletonOf d room s.goName active s

theorem skeletonOf_succ (typeName : String) (active : List Position) (s : Site) :
    skeletonOf d (room + 1) typeName active s = .construct typeName
      (setAll [] (s.message.fields.filterMap (entryOf d (skeletonsBelow d room) active))) := rfl

theorem listed_eq_some_iff : listed d f = some u ↔
    f.holdsMessage ∧ f.isRepeated ∧ d.field f = some u ∧ u.message.mapEntry = false := by
  simp [listed, Option.ite_none_right_eq_some, Option.filter_eq_some_iff, and_assoc]

/-- The fields that have an entry are those that hold a list, and those through which a message is
entered as long as there is room. -/
theorem hasEntry_iff : hasEntry d depth outer t f ↔
    (∃ u, listed d f = some u) ∨
      outer.length < maxDepth - depth ∧
        ∃ u, entered d ((t :: outer).map Site.position) f = some u := by
  simp only [hasEntry, Bool.and_eq_true, Option.any_eq_true, Bool.or_eq_true, decide_eq_true_eq,
    Bool.not_eq_true', List.contains_eq_mem, decide_eq_false_iff_not, listed_eq_some_iff,
    entered_eq_some_iff]
  constructor
  · rintro ⟨hm, u, hf, he, hr | ⟨hact, hdeep⟩⟩
    · exact Or.inl ⟨u, hm, hr, hf, he⟩
    · by_cases hr : f.isRepeated
      · exact Or.inl ⟨u, hm, hr, hf, he⟩
      · exact Or.inr ⟨hdeep, u, hm, hr, hf, he, hact⟩
  · rintro (⟨u, hm, hr, hf, he⟩ | ⟨hdeep, u, hm, -, hf, he, hact⟩)
    · exact ⟨hm, u, hf, he, Or.inl hr⟩
    · exact ⟨hm, u, hf, he, Or.inr ⟨hact, hdeep⟩⟩

/-- What the entry of a field is: an empty list, or the skeleton of the message that is entered
through it. -/
theorem entryOf_eq_some_iff {e : String × Skeleton} :
    entryOf d (skeletonsBelow d room) active f = some e ↔
      (∃ u, listed d f = some u ∧ e = (f.goName, .emptyList u.goName)) ∨
        room ≠ 0 ∧ ∃ u, entered d active f = some u ∧
          e = (f.goName, skeletonsBelow d room (u.position :: active) u) := by
  rw [entryOf, fieldValue]
  cases hlist : listed d f with
  | some u =>
    have hent : entered d active f = none := by
      simp [entered, (listed_eq_some_iff.1 hlist).2.1]
    simp [hent, Skeleton.isNothing, eq_comm]
  | none =>
    cases hent : entered d active f with
    | none => simp [Skeleton.isNothing]
    | some u =>
      have hnothing : (skeletonsBelow d room (u.position :: active) u).isNothing ↔ room = 0 := by
        cases room <;> simp [skeletonsBelow, skeletonOf, Skeleton.isNothing]
      simp [hnothing, eq_comm]

/-- The entries of a message, in the order of its fields. -/
theorem forall₂_entryFor (hroom : room = maxDepth - depth - outer.length) :
    List.Forall₂ (EntryFor d) (t.message.fields.filter (hasEntry d depth outer t))
      (t.message.fields.filterMap
        (entryOf d (skeletonsBelow d room) ((t :: outer).map Site.position))) := by
  refine forall₂_filter_filterMap (fun f _ h => ?_) fun f _ h => ?_
  · rcases hasEntry_iff.1 h with ⟨u, hlist⟩ | ⟨hdeep, u, hent⟩
    · obtain ⟨-, hr, hf, -⟩ := listed_eq_some_iff.1 hlist
      refine ⟨_, entryOf_eq_some_iff.2 (Or.inl ⟨u, hlist, rfl⟩), ?_⟩
      rw [goName_eq_typeNameOf (d.mem_sites_of_field hf)]
      exact .list hr hf
    · obtain ⟨-, hr, hf, -⟩ := entered_eq_some_iff.1 hent
      obtain ⟨room, rfl⟩ := Nat.exists_eq_succ_of_ne_zero (n := room) (by omega)
      refine ⟨_, entryOf_eq_some_iff.2 (Or.inr ⟨Nat.succ_ne_zero room, u, hent, rfl⟩), ?_⟩
      rw [skeletonsBelow, skeletonOf_succ, goName_eq_typeNameOf (d.mem_sites_of_field hf)]
      exact .message hr hf
  · rw [Option.eq_none_iff_forall_ne_some]
    intro e he
    refine Bool.eq_false_iff.1 h (hasEntry_iff.2 ?_)
    rcases entryOf_eq_some_iff.1 he with ⟨u, hlist, -⟩ | ⟨hpos, u, hent, -⟩
    · exact Or.inl ⟨u, hlist⟩
    · exact Or.inr ⟨by omega, u, hent⟩

end Entries

/-! ## Every node is reached -/

section Nodes

variable {d : Declarations} {s : Site}

/-- The skeleton of a message without two fields of one name holds the entries of its fields. -/
theorem skeletonOf_of_nodup {room : Nat} {typeName : String} {active : List Position} {t : Site}
    (h : (t.message.fields.map Field.goName).Nodup) :
    skeletonOf d (room + 1) typeName active t = .construct typeName
      (t.message.fields.filterMap (entryOf d (skeletonsBelow d room) active)) := by
  rw [skeletonOf_succ, setAll_of_nodup _ _ (nodup_entries h), List.nil_append]

/-- A node that stands for a message is the skeleton of it, to the depth that is left there. -/
theorem exists_skeletonOf_of_standsFor (hd : DistinctFields d)
    (hs : (s.message.fields.map Field.goName).Nodup) {typeName : String} {room : Nat}
    {outer : List Site} {t : Site} {v : Skeleton}
    (h : StandsFor d s (skeletonOf d (room + 1) typeName [s.position] s) outer t v) :
    (t.message.fields.map Field.goName).Nodup ∧ ∃ left typeName, room = left + outer.length ∧
      v = skeletonOf d (left + 1) typeName ((t :: outer).map Site.position) t := by
  induction h with
  | request => exact ⟨hs, room, typeName, rfl, rfl⟩
  | @field outer t u typeName entries f v _ hf hm hr hfield hmem ih =>
    obtain ⟨hfields, left, _, hleft, hnode⟩ := ih
    rw [skeletonOf_of_nodup hfields] at hnode
    obtain ⟨-, rfl⟩ := Skeleton.construct.inj hnode
    obtain ⟨g, hg, hentry⟩ := List.mem_filterMap.1 hmem
    refine ⟨hd u (d.mem_sites_of_field hfield), ?_⟩
    rcases entryOf_eq_some_iff.1 hentry with ⟨_, hlist, he⟩ | ⟨hpos, w, hent, he⟩
    · obtain ⟨hname, -⟩ := Prod.mk.inj he
      obtain rfl := List.inj_on_of_nodup_map hfields hf hg hname
      exact absurd (listed_eq_some_iff.1 hlist).2.1 hr
    · obtain ⟨hname, rfl⟩ := Prod.mk.inj he
      obtain rfl := List.inj_on_of_nodup_map hfields hf hg hname
      obtain rfl : u = w := Option.some.inj (hfield.symm.trans (entered_eq_some_iff.1 hent).2.2.1)
      obtain ⟨left, rfl⟩ := Nat.exists_eq_succ_of_ne_zero hpos
      exact ⟨left, u.goName, by simp only [List.length_cons]; omega, rfl⟩

/-- Every part of a skeleton but the empty lists stands for a message. -/
theorem isList_or_standsFor_of_hasPart (hd : DistinctFields d)
    (hs : (s.message.fields.map Field.goName).Nodup) {typeName : String} {room : Nat}
    {part : Skeleton}
    (h : (skeletonOf d (room + 1) typeName [s.position] s).HasPart part) :
    (∃ listed, part = .emptyList listed) ∨
      ∃ outer t, StandsFor d s (skeletonOf d (room + 1) typeName [s.position] s) outer t part := by
  induction h with
  | self => exact Or.inr ⟨[], s, .request⟩
  | @value _ name entries v _ hmem ih =>
    obtain ⟨listed, hpart⟩ | ⟨outer, t, hstands⟩ := ih
    · cases hpart
    · obtain ⟨ht, left, _, -, hnode⟩ := exists_skeletonOf_of_standsFor hd hs hstands
      rw [skeletonOf_of_nodup ht] at hnode
      obtain ⟨-, hentries⟩ := Skeleton.construct.inj hnode
      rw [hentries] at hmem
      obtain ⟨f, hf, hentry⟩ := List.mem_filterMap.1 hmem
      rcases entryOf_eq_some_iff.1 hentry with ⟨u, -, he⟩ | ⟨-, u, hent, he⟩
      · exact Or.inl ⟨_, (Prod.mk.inj he).2⟩
      · obtain ⟨hm, hr, hfield, -⟩ := entered_eq_some_iff.1 hent
        rw [← hentries, (Prod.mk.inj he).1] at hmem
        exact Or.inr ⟨t :: outer, u, .field hstands hf hm hr hfield hmem⟩

end Nodes

/-- The skeleton `root` of the request `s` at a depth is the tree of its single messages. -/
structure IsMessageTree (d : Declarations) (s : Site) (typeName : String) (depth : Nat)
    (root : Skeleton) : Prop where
  construct : ∃ entries, root = .construct typeName entries
  filled : ∀ part, root.HasPart part → part ≠ .nothing
  reached : ∀ typeName entries, root.HasPart (.construct typeName entries) →
    ∃ outer t, StandsFor d s root outer t (.construct typeName entries)
  entries : ∀ outer t v, StandsFor d s root outer t v → ∃ typeName entries,
    v = .construct typeName entries ∧
      List.Forall₂ (EntryFor d) (t.message.fields.filter (hasEntry d depth outer t)) entries

/-- Whatever was looked up before: the skeleton of a message that is asked for below the greatest
depth is nothing. Above it, where neither that message nor a declared one has two fields of one name
in Go, it is the tree of the single messages that are reached from that message. -/
theorem skeleton_is_messageTree (d : Declarations) (s : Site) (typePrefix : String) (depth : Nat)
    (before : List Query) :
    (maxDepth < depth → ((skeleton d s typePrefix depth).run (logAfter d before)).1 = .nothing) ∧
      (depth ≤ maxDepth → DistinctFields d → (s.message.fields.map Field.goName).Nodup →
        IsMessageTree d s (typePrefix ++ s.message.name) depth
          ((skeleton d s typePrefix depth).run (logAfter d before)).1) := by
  rw [(yields_skeleton d s typePrefix depth).fst_run (faithful_logAfter d before)]
  constructor
  · intro hdeep
    rw [show maxDepth + 1 - depth = 0 by omega, skeletonOf]
  · intro hdepth hd hs
    rw [show maxDepth + 1 - depth = maxDepth - depth + 1 by omega]
    refine ⟨⟨_, skeletonOf_succ _ _ _⟩, fun part hpart => ?_, fun _ _ hpart => ?_,
      fun outer t v h => ?_⟩
    · obtain ⟨_, rfl⟩ | ⟨outer, t, hstands⟩ := isList_or_standsFor_of_hasPart hd hs hpart
      · simp
      · obtain ⟨-, left, _, -, rfl⟩ := exists_skeletonOf_of_standsFor hd hs hstands
        simp [skeletonOf]
    · exact (isList_or_standsFor_of_hasPart hd hs hpart).resolve_left (by simp)
    · obtain ⟨ht, left, typeName, hleft, rfl⟩ := exists_skeletonOf_of_standsFor hd hs h
      refine ⟨typeName, _, skeletonOf_of_nodup ht, forall₂_entryFor ?_⟩
      omega

/-- A tree has a leaf, which is declared in it, and refers to other trees. -/
def tree : Message where
  name := "Tree"
  fields :=
    [{ name := "leaf", wireType := .message, typeName := ".pb.Tree.Leaf" },
      { name := "scions", wireType := .message, label := .repeated, typeName := ".pb.Tree" },
      { name := "stock", wireType := .message, typeName := ".pb.Tree" }]
  nested := [{ name := "Leaf" }]

/-- A file that declares trees. -/
def orchard : Declarations where
  package := "pb"
  roots := [tree]

/-- As deep as a leaf still fits, the skeleton of a tree has the leaf and an empty list of scions,
but not the stock, which is the tree again. Two messages deeper it is nothing. -/
theorem isMessageTree_orchard :
    maxDepth < 11 ∧ ((skeleton orchard ⟨[0], [], tree⟩ "" 11).run {}).1 = .nothing ∧
      9 ≤ maxDepth ∧ DistinctFields orchard ∧ (tree.fields.map Field.goName).Nodup ∧
      ∃ entries, ((skeleton orchard ⟨[0], [], tree⟩ "" 9).run {}).1 = .construct "Tree" entries ∧
        List.Forall₂ (EntryFor orchard) (tree.fields.take 2) entries := by
  have hd : DistinctFields orchard := by
    unfold DistinctFields
    decide
  have hs : (tree.fields.map Field.goName).Nodup := hd ⟨[0], [], tree⟩ List.mem_cons_self
  have hfields :
      tree.fields.filter (hasEntry orchard 9 [] ⟨[0], [], tree⟩) = tree.fields.take 2 := by
    decide
  obtain ⟨hdeep, -⟩ := skeleton_is_messageTree orchard ⟨[0], [], tree⟩ "" 11 []
  obtain ⟨-, htree⟩ := skeleton_is_messageTree orchard ⟨[0], [], tree⟩ "" 9 []
  have hnode := htree (by decide) hd hs
  obtain ⟨entries, hentries⟩ := hnode.construct
  obtain ⟨_, _, hv, hall⟩ := hnode.entries [] _ _ .request
  obtain ⟨-, rfl⟩ := Skeleton.construct.inj (hentries.symm.trans hv)
  rw [hfields] at hall
  exact ⟨by decide, hdeep (by decide), by decide, hd, hs, entries, hentries, hall⟩

end ServiceCli.Request
