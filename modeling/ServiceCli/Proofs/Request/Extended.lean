import ServiceCli.Proofs.Request.Queries
import ServiceCli.Proofs.Tree.Extended

/-!
# Requests in an extended tree

A query about the declarations depends on the answers to the keys that it looks up and on nothing
else about the tree (`fst_run_of_agreeOn`). When messages are appended, the keys that find something
keep their answers. So what is asked of the tree is answered as before if no key is missed on the
way, and in particular the flags and the skeleton of a message stay the same if every reference
that can be followed from it is found (`extended_answers`).
-/

namespace ServiceCli.Request

open Proto ServiceCli.Tree

/-- Two files of one package in which the keys find the same. -/
structure AgreeOn (d d' : Declarations) (keys : List String) : Prop where
  package : d'.package = d.package
  resolve : ∀ key ∈ keys, resolve d'.roots key = resolve d.roots key

/-! ## What depends on the keys alone -/

section Agree

variable {d d' : Declarations} {keys ls : List String} {active : List Position} {f : Field}
  {help : String} {p : Place}

theorem AgreeOn.mono (h : AgreeOn d d' keys) (hsub : ls ⊆ keys) : AgreeOn d d' ls :=
  ⟨h.package, fun key hkey => h.resolve key (hsub hkey)⟩

/-- The package decides what key a reference has. -/
theorem key?_eq_of_package (h : d'.package = d.package) : d'.key? = d.key? :=
  funext fun ref => by rw [Declarations.key?, Declarations.key?, h]

theorem AgreeOn.reference {ref : String} (h : AgreeOn d d' (d.key? ref).toList) :
    d'.reference ref = d.reference ref := by
  rw [Declarations.reference, Declarations.reference, key?_eq_of_package h.package]
  cases hkey : d.key? ref with
  | none => rfl
  | some key => exact h.resolve key (by simp [hkey])

theorem AgreeOn.field (h : AgreeOn d d' (d.fieldKeys f)) : d'.field f = d.field f := by
  rw [Declarations.fieldKeys] at h
  rw [Declarations.field, Declarations.field]
  cases href : f.typeName with
  | none => rfl
  | some ref =>
    rw [href] at h
    exact h.reference

theorem isMapField_congr (h : f.holdsMessage → d'.field f = d.field f) :
    isMapField d' f = isMapField d f := by
  cases hm : f.holdsMessage with
  | false => simp [isMapField, hm]
  | true => rw [isMapField, isMapField, h hm]

theorem entered_congr (h : f.holdsMessage → d'.field f = d.field f) :
    entered d' active f = entered d active f := by
  cases hm : f.holdsMessage with
  | false => simp [entered, hm]
  | true => rw [entered, entered, h hm]

theorem listed_congr (h : f.holdsMessage → d'.field f = d.field f) : listed d' f = listed d f := by
  cases hm : f.holdsMessage with
  | false => simp [listed, hm]
  | true => rw [listed, listed, h hm]

/-- Where two files agree on the keys for a field, the field finds the same in them. -/
theorem AgreeOn.field_of_keysOfField {below : List Position → Site → List String}
    (h : AgreeOn d d' (keysOfField d below active f)) (hm : f.holdsMessage) :
    d'.field f = d.field f := by
  rw [keysOfField_of_holdsMessage hm] at h
  exact (h.mono (List.subset_append_left _ _)).field

/-- Where two files agree on the keys for a field, they agree on those for what it enters. -/
theorem AgreeOn.entered {below : List Position → Site → List String} {s : Site}
    (h : AgreeOn d d' (keysOfField d below active f)) (hs : entered d active f = some s) :
    AgreeOn d d' (below (s.position :: active) s) := by
  rw [keysOfField_of_holdsMessage (entered_eq_some_iff.1 hs).1, hs] at h
  exact h.mono (List.subset_append_right _ _)

theorem AgreeOn.keysOfField {read : List Field → List Field} {room : Nat} {s : Site}
    (h : AgreeOn d d' (keysBelow d read (room + 1) active s)) (hf : f ∈ read s.message.fields) :
    AgreeOn d d' (keysOfField d (keysBelow d read room) active f) :=
  h.mono fun _ hkey => List.mem_flatMap_of_mem hf hkey

/-! ### Flags -/

theorem fieldFlags_congr {below below' : Place → Site → List Flag}
    (h : f.holdsMessage → d'.field f = d.field f)
    (hbelow : ∀ s, entered d p.active f = some s → below' (p.enter f s) s = below (p.enter f s) s) :
    fieldFlags d' help below' p f = fieldFlags d help below p f := by
  rw [fieldFlags, fieldFlags, entered_congr h]
  cases hs : entered d p.active f with
  | none => rfl
  | some s => rw [Option.elim_some, Option.elim_some, hbelow s hs]

/-- Only the fields that are walked tell whether there is a map field. -/
theorem any_isMapField_congr :
    ∀ {fs : List Field}, (∀ f ∈ walkedFields d fs, isMapField d' f = isMapField d f) →
      fs.any (isMapField d') = fs.any (isMapField d)
  | [], _ => rfl
  | f :: fs, h => by
    rw [List.any_cons, List.any_cons]
    cases hmap : isMapField d f with
    | true =>
      rw [walkedFields, if_pos hmap] at h
      rw [h f List.mem_cons_self, hmap, Bool.true_or, Bool.true_or]
    | false =>
      rw [walkedFields_cons hmap] at h
      rw [h f List.mem_cons_self, hmap,
        any_isMapField_congr fun g hg => h g (List.mem_cons_of_mem _ hg)]

/-- Where no field is a map, all of them are walked. -/
theorem walkedFields_eq_self : ∀ {fs : List Field}, fs.any (isMapField d) = false →
    walkedFields d fs = fs
  | [], _ => rfl
  | f :: fs, h => by
    rw [List.any_cons, Bool.or_eq_false_iff] at h
    rw [walkedFields_cons h.1, walkedFields_eq_self h.2]

theorem ownFlags_congr {below below' : Place → Site → List Flag} {m : Message}
    (h : ∀ f ∈ walkedFields d m.fields, f.holdsMessage → d'.field f = d.field f)
    (hbelow : ∀ f ∈ walkedFields d m.fields, ∀ s, entered d p.active f = some s →
      below' (p.enter f s) s = below (p.enter f s) s) :
    ownFlags d' help below' p m = ownFlags d help below p m := by
  rw [ownFlags, ownFlags, any_isMapField_congr fun f hf => isMapField_congr (h f hf)]
  cases hmap : m.fields.any (isMapField d) with
  | true => rfl
  | false =>
    rw [walkedFields_eq_self hmap] at h hbelow
    exact congrArg List.flatten
      (List.map_congr_left fun f hf => fieldFlags_congr (h f hf) (hbelow f hf))

/-- The flags of a message are the same in files that agree on the keys for it. -/
theorem flagsOf_congr :
    ∀ (room : Nat) (p : Place) (s : Site),
      AgreeOn d d' (keysBelow d (walkedFields d) room p.active s) →
        flagsOf d' help room p s = flagsOf d help room p s
  | 0, _, _, _ => rfl
  | room + 1, p, _, h =>
    ownFlags_congr (fun _ hf => (h.keysOfField hf).field_of_keysOfField)
      fun f hf t ht => flagsOf_congr room (p.enter f t) t ((h.keysOfField hf).entered ht)

/-! ### Skeletons -/

theorem entryOf_congr {below below' : List Position → Site → Skeleton}
    (h : f.holdsMessage → d'.field f = d.field f)
    (hbelow : ∀ s, entered d active f = some s →
      below' (s.position :: active) s = below (s.position :: active) s) :
    entryOf d' below' active f = entryOf d below active f := by
  have hvalue : fieldValue d' below' active f = fieldValue d below active f := by
    rw [fieldValue, fieldValue, listed_congr h, entered_congr h]
    cases listed d f with
    | some s => rfl
    | none =>
      cases hs : entered d active f with
      | none => rfl
      | some s => exact hbelow s hs
  rw [entryOf, entryOf, hvalue]

/-- The skeleton of a message is the same in files that agree on the keys for it. -/
theorem skeletonOf_congr :
    ∀ (room : Nat) (typeName : String) (active : List Position) (s : Site),
      AgreeOn d d' (keysBelow d id room active s) →
        skeletonOf d' room typeName active s = skeletonOf d room typeName active s
  | 0, _, _, _, _ => rfl
  | room + 1, typeName, active, s, h => by
    rw [skeletonOf, skeletonOf]
    congr 2
    refine List.filterMap_congr fun f hf => ?_
    exact entryOf_congr (h.keysOfField hf).field_of_keysOfField
      fun t ht => skeletonOf_congr room t.goName _ t ((h.keysOfField hf).entered ht)

end Agree

/-! ## Queries -/

/-- The answer to a query after others were answered. -/
def answerAfter (d : Declarations) (qs : List Query) (q : Query) : Answer :=
  ((q.run d).run (logAfter d qs)).1

section Answers

variable {d d' : Declarations} {qs : List Query} {q : Query}

theorem answerAfter_key (key : String) :
    answerAfter d qs (.key key) = .site (resolve d.roots key) :=
  ((yields_resolveKey key).map _).fst_run (faithful_logAfter d qs)

theorem answerAfter_reference (ref : String) :
    answerAfter d qs (.reference ref) = .site (d.reference ref) :=
  ((yields_resolveReference ref).map _).fst_run (faithful_logAfter d qs)

theorem answerAfter_field (f : Field) : answerAfter d qs (.field f) = .site (d.field f) :=
  ((yields_resolveField f).map _).fst_run (faithful_logAfter d qs)

theorem answerAfter_flags (path lead : String) (s : Site) (help : String) :
    answerAfter d qs (.flags path lead s help) =
      .flags (flagsOf d help (maxDepth + 1) ⟨path, lead, [s.position]⟩ s) :=
  ((yields_flags d path lead s help).map _).fst_run (faithful_logAfter d qs)

theorem answerAfter_skeleton (s : Site) (typePrefix : String) (depth : Nat) :
    answerAfter d qs (.skeleton s typePrefix depth) = .skeleton
      (skeletonOf d (maxDepth + 1 - depth) (typePrefix ++ s.message.name) [s.position] s) :=
  ((yields_skeleton d s typePrefix depth).map _).fst_run (faithful_logAfter d qs)

/-- A query about the declarations is answered in the same way in files that agree on its keys,
whatever was asked before. -/
theorem answerAfter_of_agreeOn (hq : q.isAboutTree) (h : AgreeOn d d' (q.keys d))
    (qs qs' : List Query) : answerAfter d' qs' q = answerAfter d qs q := by
  cases q with
  | key key => rw [answerAfter_key, answerAfter_key, h.resolve key (by simp [Query.keys])]
  | reference ref => rw [answerAfter_reference, answerAfter_reference, AgreeOn.reference h]
  | field f => rw [answerAfter_field, answerAfter_field, AgreeOn.field h]
  | logged key => cases hq
  | flags path lead s help => rw [answerAfter_flags, answerAfter_flags, flagsOf_congr _ _ _ h]
  | skeleton s typePrefix depth =>
    rw [answerAfter_skeleton, answerAfter_skeleton, skeletonOf_congr _ _ _ _ h]

/-- A declaration is looked up by one key, or by none, which the package decides. -/
theorem exists_key_of_site {a : Option Site} (h : answerAfter d qs q = .site a) :
    ∃ key : Option String, a = key.bind (resolve d.roots) ∧
      ∀ d' : Declarations, d'.package = d.package → ∀ qs',
        answerAfter d' qs' q = .site (key.bind (resolve d'.roots)) := by
  cases q with
  | key key =>
    rw [answerAfter_key] at h
    exact ⟨some key, (Answer.site.inj h).symm, fun d' _ qs' => answerAfter_key key⟩
  | reference ref =>
    rw [answerAfter_reference] at h
    refine ⟨d.key? ref, (Answer.site.inj h).symm, fun d' hp qs' => ?_⟩
    rw [answerAfter_reference, Declarations.reference, key?_eq_of_package hp]
  | field f =>
    have hfield (d' : Declarations) :
        d'.field f = (f.typeName.bind d'.key?).bind (resolve d'.roots) := by
      rw [Option.bind_assoc]
      rfl
    rw [answerAfter_field, hfield] at h
    refine ⟨f.typeName.bind d.key?, (Answer.site.inj h).symm, fun d' hp qs' => ?_⟩
    rw [answerAfter_field, hfield, key?_eq_of_package hp]
  | logged key => cases h
  | flags path lead s help =>
    rw [answerAfter_flags] at h
    cases h
  | skeleton s typePrefix depth =>
    rw [answerAfter_skeleton] at h
    cases h

end Answers

/-! ## What is found stays -/

/-- Every key in the log found a declaration. -/
def AllFound (log : LookupLog) : Prop :=
  ∀ e ∈ log.entries, e.2.isSome

/-- A reference that is followed from a message: that of a field that holds a message, or one that
is followed from the message which such a field holds by itself. -/
inductive Follows (d : Declarations) : Message → String → Prop where
  | own {m : Message} {f : Field} {ref : String} (hf : f ∈ m.fields) (hm : f.holdsMessage)
      (href : f.typeName = some ref) : Follows d m ref
  | through {m : Message} {f : Field} {s : Site} {ref : String} (hf : f ∈ m.fields)
      (hm : f.holdsMessage) (hr : ¬f.isRepeated) (hs : d.field f = some s)
      (he : s.message.mapEntry = false) (h : Follows d s.message ref) : Follows d m ref

section Found

variable {d : Declarations} {keys : List String}

theorem agreeOn_extended (h : ∀ key ∈ keys, (resolve d.roots key).isSome) (more : List Message) :
    AgreeOn d (d.extended more) keys :=
  ⟨rfl, fun key hkey => Declarations.resolve_extended_of_isSome (h key hkey) more⟩

/-- If the log of a query has no miss, all of its keys are found. -/
theorem isSome_of_allFound {q : Query} (h : AllFound (logAfter d [q])) :
    ∀ key ∈ q.keys d, (resolve d.roots key).isSome := by
  intro key hkey
  have hget : (logAfter d [q]).get? key = some (resolve d.roots key) := by
    rw [logAfter_eq, (LookupLog.faithful_empty _).get?_noteAll, if_pos (by simpa using hkey)]
  obtain ⟨before, after, hentries, -⟩ := List.lookup_eq_some_iff.1 hget
  exact h (key, resolve d.roots key) (by rw [hentries]; simp)

/-- If every reference is found that is followed from a message, so are the keys that are looked up
for it. -/
theorem isSome_of_follows (read : List Field → List Field) (hread : ∀ fs, read fs ⊆ fs) :
    ∀ (room : Nat) (active : List Position) (s : Site),
      (∀ ref, Follows d s.message ref → (d.reference ref).isSome) →
        ∀ key ∈ keysBelow d read room active s, (resolve d.roots key).isSome
  | 0, _, _, _, key, hkey => by cases hkey
  | room + 1, active, s, h, key, hkey => by
    obtain ⟨f, hf, hkey⟩ := List.mem_flatMap.1 hkey
    have hf : f ∈ s.message.fields := hread _ hf
    by_cases hm : f.holdsMessage
    · rw [keysOfField_of_holdsMessage hm, List.mem_append] at hkey
      rcases hkey with hown | hbelow
      · obtain ⟨ref, href, href?⟩ := Option.bind_eq_some_iff.1 (Option.mem_toList.1 hown)
        have hfound := h ref (.own hf hm href)
        rwa [Declarations.reference, href?, Option.bind_some] at hfound
      · cases ht : entered d active f with
        | none =>
          rw [ht] at hbelow
          cases hbelow
        | some t =>
          rw [ht] at hbelow
          obtain ⟨-, hr, hfield, he, -⟩ := entered_eq_some_iff.1 ht
          exact isSome_of_follows read hread room _ t
            (fun ref href => h ref (.through hf hm hr hfield he href)) key hbelow
    · rw [keysOfField, if_neg hm] at hkey
      cases hkey

theorem walkedFields_subset : ∀ (fs : List Field), walkedFields d fs ⊆ fs
  | [] => List.Subset.refl _
  | f :: fs => by
    rw [walkedFields]
    split
    · simp
    · exact List.cons_subset_cons f (walkedFields_subset fs)

/-- In a file in which each reference of each message is found, all that are followed are. -/
theorem isSome_of_mem_sites
    (h : ∀ s ∈ sites d.roots, ∀ f ∈ s.message.fields, ∀ ref ∈ f.typeName, (d.reference ref).isSome)
    {s : Site} (hs : s ∈ sites d.roots) {ref : String} (href : Follows d s.message ref) :
    (d.reference ref).isSome := by
  generalize hm : s.message = m at href
  induction href generalizing s with
  | own hf _ href => exact h s hs _ (hm ▸ hf) _ href
  | through _ _ _ hfield _ _ ih => exact ih (d.mem_sites_of_field hfield) rfl

end Found

/-- When messages are appended, the declarations keep their places and the appended ones come behind
them. Whatever was asked before in the two trees, what is found stays the declaration that is found,
and what is found only then is an appended declaration. Any query about the tree is answered as
before if it looks up nothing that is missing. In particular the flags and the skeleton of a message
stay the same if every reference that is followed from it is found. -/
theorem extended_answers (d : Declarations) (more : List Message) (before after : List Query) :
    sites (d.extended more).roots =
      sites d.roots ++ (sites more).map (Site.behind d.roots.length) ∧
    (∀ q s, answerAfter d before q = .site (some s) →
      s ∈ sites d.roots ∧ answerAfter (d.extended more) after q = .site (some s)) ∧
    (∀ q s, answerAfter d before q = .site none →
      answerAfter (d.extended more) after q = .site (some s) →
        ∃ t ∈ sites more, s = t.behind d.roots.length) ∧
    (∀ q, q.isAboutTree → AllFound (logAfter d [q]) →
      answerAfter (d.extended more) after q = answerAfter d before q) ∧
    ∀ s, (∀ ref, Follows d s.message ref → (d.reference ref).isSome) →
      ∀ path lead help typePrefix depth,
        answerAfter (d.extended more) after (.flags path lead s help) =
          answerAfter d before (.flags path lead s help) ∧
        answerAfter (d.extended more) after (.skeleton s typePrefix depth) =
          answerAfter d before (.skeleton s typePrefix depth) := by
  refine ⟨sites_append _ _, fun q s h => ?_, fun q s h h' => ?_, fun q hq h => ?_,
    fun s h path lead help typePrefix depth => ⟨?_, ?_⟩⟩
  · obtain ⟨_, hfound, hall⟩ := exists_key_of_site h
    obtain ⟨key, rfl, hs⟩ := Option.bind_eq_some_iff.1 hfound.symm
    refine ⟨mem_sites_of_resolve hs, ?_⟩
    rw [hall (d.extended more) rfl after, Option.bind_some,
      Declarations.resolve_extended_of_isSome (by rw [hs]; rfl), hs]
  · obtain ⟨_, hnone, hall⟩ := exists_key_of_site h
    rw [hall (d.extended more) rfl after] at h'
    obtain ⟨key, rfl, hs⟩ := Option.bind_eq_some_iff.1 (Answer.site.inj h')
    exact Declarations.exists_behind_of_resolve hnone.symm hs
  · exact answerAfter_of_agreeOn hq (agreeOn_extended (isSome_of_allFound h) more) before after
  · refine answerAfter_of_agreeOn rfl (agreeOn_extended ?_ more) before after
    exact isSome_of_follows (walkedFields d) walkedFields_subset _ [s.position] s h
  · refine answerAfter_of_agreeOn rfl (agreeOn_extended ?_ more) before after
    exact isSome_of_follows id List.Subset.refl _ [s.position] s h

/-- Two messages after the circle. The first of them has the name of one there. -/
def afterCircle : List Message :=
  [{ name := "A", nested := [{ name := "D" }] }, { name := "C", nested := [{ name := "D" }] }]

/-- The circle is found and requested as before, and a name that it lacks is found behind it. The
path through the name that both have still finds nothing. -/
theorem extended_answers_circle :
    answerAfter (circle.extended afterCircle) circleQueries (.key "A") =
        .site (some circleStart) ∧
      answerAfter circle [] (.reference "D") = .site none ∧
      (∃ t ∈ sites afterCircle, ⟨[2, 0], ["A"], { name := "D" }⟩ = t.behind 2) ∧
      answerAfter (circle.extended afterCircle) [] (.reference ".pb.A.D") = .site none ∧
      AllFound (logAfter circle [.skeleton circleStart "" 0]) ∧
      (∀ ref, Follows circle circleStart.message ref → (circle.reference ref).isSome) ∧
      answerAfter (circle.extended afterCircle) circleQueries (.flags "reqArgs" "" circleStart "") =
        answerAfter circle [] (.flags "reqArgs" "" circleStart "") := by
  have hfollows (ref : String) (h : Follows circle circleStart.message ref) :
      (circle.reference ref).isSome :=
    isSome_of_mem_sites (by decide +kernel) (by decide +kernel : circleStart ∈ sites circle.roots) h
  have hlog : AllFound (logAfter circle [.skeleton circleStart "" 0]) := by
    unfold AllFound
    decide +kernel
  have hA : answerAfter circle [] (.key "A") = .site (some circleStart) := by
    rw [answerAfter_key]
    exact congrArg _ (by decide +kernel)
  have hD : answerAfter circle [] (.reference "D") = .site none := by
    rw [answerAfter_reference]
    exact congrArg _ (by decide +kernel)
  have hD' : answerAfter (circle.extended afterCircle) circleQueries (.reference "D") =
      .site (some ⟨[2, 0], ["A"], { name := "D" }⟩) := by
    rw [answerAfter_reference]
    exact congrArg _ (by decide +kernel)
  have hpath : answerAfter (circle.extended afterCircle) [] (.reference ".pb.A.D") = .site none := by
    rw [answerAfter_reference]
    exact congrArg _ (by decide +kernel)
  obtain ⟨-, hkept, hnew, -, hrequest⟩ := extended_answers circle afterCircle [] circleQueries
  exact ⟨(hkept _ _ hA).2, hD, hnew _ _ hD hD', hpath, hlog, hfollows,
    (hrequest circleStart hfollows "reqArgs" "" "" "" 0).1⟩

end ServiceCli.Request
