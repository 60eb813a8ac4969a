import ServiceCli.Proofs.Request.Queries
import ServiceCli.Proofs.Tree.Declared

/-!
# Flags bind allocated fields

A flag is bound to an address inside the request, and the request is allocated from its skeleton.
The walk for flags and the allocation are two recursions over the same declarations, which may
refer to one another in circles. `FieldPath` is a way from a message along its fields, and
`Skeleton.Reaches` says that a skeleton allocates every message on it. `target_allocated` says
that each flag is bound along a way that the skeleton allocates, so that no flag points through a
message that is not there. It asks that no message has two fields of one name in Go, which no Go
type can have.
-/

namespace ServiceCli.Request

open Proto ServiceCli.Tree

/-! ## Ways along fields -/

/-- The fields `fs` lead one after another from the message at a site to one that has the
field `f`. -/
inductive FieldPath (d : Declarations) : Site → List Field → Field → Prop
  | last {s : Site} {f : Field} : f ∈ s.message.fields → FieldPath d s [] f
  | enter {s t : Site} {g f : Field} {fs : List Field} : g ∈ s.message.fields →
    d.field g = some t → FieldPath d t fs f → FieldPath d s (g :: fs) f

/-- The skeleton allocates a message, and so does every value on the way along the names. -/
inductive Skeleton.Reaches : Skeleton → List String → Prop
  | here (typeName : String) (fields : List (String × Skeleton)) :
    Reaches (.construct typeName fields) []
  | step {typeName : String} {fields : List (String × Skeleton)} {name : String}
    {value : Skeleton} {names : List String} :
    (Skeleton.construct typeName fields).field? name = some value → Reaches value names →
    Reaches (.construct typeName fields) (name :: names)

/-- No message has two fields of one name in Go. -/
def DistinctFields (d : Declarations) : Prop :=
  ∀ s ∈ sites d.roots, (s.message.fields.map Field.goName).Nodup

/-- The Go expression for the field at the end of a way from the message at `path`. -/
def goPath (path : String) (fs : List Field) : String :=
  String.intercalate "." (path :: fs.map Field.goName)

theorem goPath_cons (p : Place) (f : Field) (fs : List Field) :
    goPath p.path (f :: fs) = goPath (p.target f) fs := rfl

theorem Skeleton.Reaches.isNothing {v : Skeleton} {names : List String} (h : v.Reaches names) :
    v.isNothing = false := by
  cases h <;> rfl

/-! ## Entries of a skeleton -/

theorem setAll_of_nodup :
    ∀ (entries out : List (String × Skeleton)), ((out ++ entries).map Prod.fst).Nodup →
      setAll out entries = out ++ entries
  | [], out, _ => by simp [setAll]
  | (name, value) :: entries, out, h => by
    have hn : name ∉ out.map Prod.fst := by
      rw [List.map_append, List.nodup_append] at h
      exact fun hm => h.2.2 _ hm name (by simp) rfl
    have hstep : setAll out ((name, value) :: entries)
        = setAll (Skeleton.setField name value out) entries := rfl
    rw [hstep, Skeleton.setField_of_notMem hn, setAll_of_nodup entries _ (by simpa using h)]
    simp

theorem lookup_of_nodup :
    ∀ {entries : List (String × Skeleton)} {name : String} {value : Skeleton},
      (entries.map Prod.fst).Nodup → (name, value) ∈ entries →
        entries.lookup name = some value
  | [], _, _, _, h => by simp at h
  | (n, v) :: entries, name, value, hd, h => by
    rw [List.map_cons, List.nodup_cons] at hd
    rcases List.mem_cons.1 h with he | hm
    · obtain ⟨rfl, rfl⟩ := Prod.mk.inj he
      simp
    · have hne : (name == n) = false := by
        rw [beq_eq_false_iff_ne]
        intro he
        exact hd.1 (List.mem_map.2 ⟨_, hm, he⟩)
      rw [List.lookup_cons, hne]
      exact lookup_of_nodup hd.2 hm

section Entries

variable {d : Declarations} {below : List Position → Site → Skeleton} {active : List Position}

theorem nodup_entries {fs : List Field} (h : (fs.map Field.goName).Nodup) :
    ((fs.filterMap (entryOf d below active)).map Prod.fst).Nodup := by
  refine h.sublist ?_
  induction fs with
  | nil => exact List.Sublist.slnil
  | cons f fs ih =>
    have ih := ih (List.nodup_cons.1 h).2
    rw [List.filterMap_cons, List.map_cons, entryOf]
    split
    · exact ih.cons _
    · next e he =>
      obtain ⟨-, he⟩ := Option.ite_none_left_eq_some.1 he
      rw [List.map_cons, ← Option.some.inj he]
      exact ih.cons_cons _

/-- Each field that has a value has its own entry in the skeleton of its message. -/
theorem lookup_entries {fs : List Field} (h : (fs.map Field.goName).Nodup) {f : Field}
    (hf : f ∈ fs) (hv : (fieldValue d below active f).isNothing = false) :
    (setAll [] (fs.filterMap (entryOf d below active))).lookup f.goName
      = some (fieldValue d below active f) := by
  have hd : ((fs.filterMap (entryOf d below active)).map Prod.fst).Nodup := nodup_entries h
  rw [setAll_of_nodup _ _ hd, List.nil_append]
  refine lookup_of_nodup hd (List.mem_filterMap.2 ⟨f, hf, ?_⟩)
  rw [entryOf, hv, if_neg Bool.false_ne_true]

end Entries

/-! ## Targets -/

/-- A flag for a field that does not hold a message is bound to the field itself. -/
theorem target_of_mem_scalarFlag {help : String} {p : Place} {f : Field} {kind : FlagKind}
    {target name text : String} (h : .bind kind target name text ∈ (scalarFlag help p f).toList) :
    target = p.target f := by
  rw [Option.mem_toList, scalarFlag] at h
  split at h
  · simp [Flag.blocked] at h
  · obtain ⟨k, -, hk⟩ := Option.map_eq_some_iff.1 h
    split at hk
    · simp [Flag.blocked] at hk
    · injection hk with _ ht
      exact ht.symm

/-- A flag of a message is one of a field, and the message has no map. -/
theorem exists_field_of_mem_ownFlags {d : Declarations} {help : String}
    {below : Place → Site → List Flag} {p : Place} {m : Message} {kind : FlagKind}
    {target name text : String} (h : .bind kind target name text ∈ ownFlags d help below p m) :
    ∃ f ∈ m.fields, target = p.target f ∨ ∃ t, entered d p.active f = some t ∧
      .bind kind target name text ∈ below (p.enter f t) t := by
  unfold ownFlags at h
  split at h
  · simp [Flag.blocked] at h
  · obtain ⟨f, hf, hmem⟩ := List.mem_flatMap.1 h
    refine ⟨f, hf, ?_⟩
    unfold fieldFlags at hmem
    split at hmem
    · simp [Flag.blocked] at hmem
    · split at hmem
      · split at hmem
        · simp [Flag.blocked] at hmem
        · cases hent : entered d p.active f with
          | none => simp [hent] at hmem
          | some t => exact Or.inr ⟨t, rfl, by simpa [hent] using hmem⟩
      · exact Or.inl (target_of_mem_scalarFlag hmem)

/-- The flags of a message to a depth are bound along ways that its skeleton to that depth
allocates. Both enter the same messages, so the induction is on the depth that they share. -/
theorem exists_path_of_mem_flagsOf {d : Declarations} (hd : DistinctFields d) (help : String)
    {kind : FlagKind} {target name text : String} :
    ∀ (room : Nat) (p : Place) (s : Site) (typeName : String),
      (s.message.fields.map Field.goName).Nodup →
      .bind kind target name text ∈ flagsOf d help room p s →
      ∃ fs f, FieldPath d s fs f ∧ target = goPath p.path (fs ++ [f]) ∧
        (skeletonOf d room typeName p.active s).Reaches (fs.map Field.goName)
  | 0, p, s, typeName, _, h => by simp [flagsOf] at h
  | room + 1, p, s, typeName, hs, h => by
    rw [flagsOf] at h
    obtain ⟨f, hf, ht | ⟨t, hent, hbelow⟩⟩ := exists_field_of_mem_ownFlags h
    · exact ⟨[], f, .last hf, ht, .here _ _⟩
    · have hfield : d.field f = some t := (entered_eq_some_iff.1 hent).2.2.1
      have hdist : (t.message.fields.map Field.goName).Nodup := hd t (d.mem_sites_of_field hfield)
      obtain ⟨fs, g, hpath, htarget, hreach⟩ :=
        exists_path_of_mem_flagsOf hd help room (p.enter f t) t t.goName hdist hbelow
      refine ⟨f :: fs, g, .enter hf hfield hpath, ?_, ?_⟩
      · rw [htarget, List.cons_append, goPath_cons]
        rfl
      · have hvalue : fieldValue d (fun active s => skeletonOf d room s.goName active s) p.active f
            = skeletonOf d room t.goName (t.position :: p.active) t := fieldValue_of_entered hent
        have hentry := lookup_entries hs hf (by rw [hvalue]; exact hreach.isNothing)
        rw [hvalue] at hentry
        exact .step hentry hreach

/-- Whatever was looked up before, each flag of a request is bound to the field at the end of a
way along fields, and the skeleton of the request allocates every message on that way. -/
theorem target_allocated (d : Declarations) (hd : DistinctFields d) {s : Site}
    (hs : s ∈ sites d.roots) (help typePrefix : String) (before between : List Query)
    {kind : FlagKind} {target name text : String}
    (h : .bind kind target name text ∈
      ((flags d "reqArgs" "" s help).run (logAfter d before)).1) :
    ∃ fs f, FieldPath d s fs f ∧ target = goPath "reqArgs" (fs ++ [f]) ∧
      ((skeleton d s typePrefix 0).run (logAfter d between)).1.Reaches (fs.map Field.goName) := by
  rw [(yields_flags d "reqArgs" "" s help).fst_run (faithful_logAfter d before)] at h
  rw [(yields_skeleton d s typePrefix 0).fst_run (faithful_logAfter d between)]
  exact exists_path_of_mem_flagsOf hd help _ _ _ _ (hd s hs) h

/-- The text field of the second message is bound through the first, which is allocated. -/
theorem target_allocated_circle :
    DistinctFields circle ∧ circleStart ∈ sites circle.roots ∧
      .bind .string "reqArgs.B.X" "b-x" "" ∈
        ((flags circle "reqArgs" "" circleStart "").run (logAfter circle circleQueries)).1 ∧
      ∃ fs f, FieldPath circle circleStart fs f ∧ "reqArgs.B.X" = goPath "reqArgs" (fs ++ [f]) ∧
        ((skeleton circle circleStart "" 0).run (logAfter circle [])).1.Reaches
          (fs.map Field.goName) := by
  have hd : DistinctFields circle := by
    unfold DistinctFields
    decide
  have hs : circleStart ∈ sites circle.roots := by decide
  have hflag : .bind .string "reqArgs.B.X" "b-x" "" ∈
      ((flags circle "reqArgs" "" circleStart "").run (logAfter circle circleQueries)).1 := by
    rw [(yields_flags circle "reqArgs" "" circleStart "").fst_run (faithful_logAfter _ _)]
    decide
  exact ⟨hd, hs, hflag, target_allocated circle hd hs "" "" circleQueries [] hflag⟩

end ServiceCli.Request
