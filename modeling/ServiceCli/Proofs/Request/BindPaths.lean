import Mathlib.Data.List.Lex
import ServiceCli.Proofs.Request.Allocated

/-!
# Which flags a request has

A flag is bound to a scalar at the end of a path of fields. `BindPath` says which paths these are
without a walk: every field but the last holds a single message that is no map entry, no message is
passed twice, no message on the way has a map field, and the path has at most eleven fields.
`pathsOf` lists them as the walk meets them, and `binds_eq_paths` says that a request has one flag
for each bind path and no others, in the order of the fields.
-/

namespace ServiceCli.Request

open Proto Text ServiceCli.Tree

/-! ## Bind paths -/

/-- The fields along a path, each with its index in its message. -/
abbrev FieldSteps := List (Field × Nat)

/-- Whether a flag can be bound to the field itself: it holds one value of a kind that flags have,
outside every `oneof`, and is not optional. -/
def isBindable (f : Field) : Bool :=
  !f.inOneof && !f.isRepeated && !f.proto3Optional && (FlagKind.ofWireType? f.wireType).isSome

/-- Whether some field of a message is a map. -/
def hasMap (d : Declarations) (m : Message) : Bool :=
  m.fields.any (isMapField d)

/-- The steps lead from the message at a site to a bindable field. Each field before it holds a
single message, and the declarations of these, no map entries, are `passed` one after another. -/
inductive Leads (d : Declarations) : Site → FieldSteps → (passed : List Site) → Prop
  | last {s : Site} {f : Field} {j : Nat} : s.message.fields[j]? = some f → isBindable f →
    Leads d s [(f, j)] []
  | enter {s t : Site} {f : Field} {j : Nat} {steps : FieldSteps} {passed : List Site} :
    s.message.fields[j]? = some f → f.holdsMessage → ¬f.isRepeated → d.field f = some t →
    t.message.mapEntry = false → Leads d t steps passed → Leads d s ((f, j) :: steps) (t :: passed)

/-- A path from a request to a field that has a flag. -/
def BindPath (d : Declarations) (s : Site) (steps : FieldSteps) : Prop :=
  ∃ passed, Leads d s steps passed ∧ ((s :: passed).map Site.position).Nodup ∧
    steps.length ≤ 11 ∧ ∀ m ∈ s :: passed, hasMap d m.message = false

/-- The flag for the field at the end of a path, from the Go expression of the request and what the
names of its flags begin with. -/
def boundFlag (path lead help : String) (steps : FieldSteps) : Option Flag :=
  steps.getLast?.bind fun last => (FlagKind.ofWireType? last.1.wireType).map fun kind =>
    .bind kind (goPath path (steps.map Prod.fst))
      (lead ++ String.intercalate "-" (steps.map fun step => lowered step.1.goName)) help

/-! ## The paths that the walk takes -/

/-- The paths through a field, given those from the messages below. -/
def pathsVia (d : Declarations) (below : List Position → Site → List FieldSteps)
    (active : List Position) (step : Field × Nat) : List FieldSteps :=
  if isBindable step.1 then [[step]]
  else (entered d active step.1).elim [] fun t =>
    (below (t.position :: active) t).map (step :: ·)

/-- The paths from the message at a site, with so many fields at most. -/
def pathsOf (d : Declarations) : Nat → List Position → Site → List FieldSteps
  | 0, _, _ => []
  | room + 1, active, s =>
    if hasMap d s.message then []
    else s.message.fields.zipIdx.flatMap (pathsVia d (pathsOf d room) active)

section Paths

variable {d : Declarations} {below : List Position → Site → List FieldSteps}
  {active : List Position} {step : Field × Nat} {steps : FieldSteps}

theorem isBindable_eq_false_of_isMessage {f : Field} (h : f.wireType.isMessage) :
    isBindable f = false := by
  simp [isBindable, FlagKind.ofWireType?_of_isMessage h]

theorem isBindable_eq_false_of_holdsMessage {f : Field} (h : f.holdsMessage) :
    isBindable f = false :=
  isBindable_eq_false_of_isMessage (Bool.and_eq_true_iff.1 h).1

theorem entered_eq_none_of_isBindable {f : Field} (h : isBindable f) :
    entered d active f = none := by
  rw [Option.eq_none_iff_forall_ne_some]
  intro t ht
  rw [isBindable_eq_false_of_holdsMessage (entered_eq_some_iff.1 ht).1] at h
  cases h

theorem mem_pathsVia_iff :
    steps ∈ pathsVia d below active step ↔
      isBindable step.1 ∧ steps = [step] ∨ ∃ t rest, entered d active step.1 = some t ∧
        rest ∈ below (t.position :: active) t ∧ steps = step :: rest := by
  unfold pathsVia
  split
  · next h => simp [h, entered_eq_none_of_isBindable h]
  · next h =>
    cases hent : entered d active step.1 with
    | none => simp [h]
    | some t => simp [h, eq_comm]

/-- A path through a field starts with it. -/
theorem exists_cons_of_mem_pathsVia (h : steps ∈ pathsVia d below active step) :
    ∃ rest, steps = step :: rest := by
  rcases mem_pathsVia_iff.1 h with ⟨-, rfl⟩ | ⟨t, rest, -, -, rfl⟩
  · exact ⟨[], rfl⟩
  · exact ⟨rest, rfl⟩

/-- The walk takes the paths that lead to a bindable field through no message that has a map or is
being walked. -/
theorem mem_pathsOf_iff :
    ∀ {room : Nat} {active : List Position} {s : Site} {steps : FieldSteps},
      steps ∈ pathsOf d room active s ↔
        ∃ passed, Leads d s steps passed ∧ (passed.map Site.position).Nodup ∧
          (∀ t ∈ passed, t.position ∉ active) ∧ steps.length ≤ room ∧
          ∀ m ∈ s :: passed, hasMap d m.message = false
  | 0, active, s, steps => by
    rw [pathsOf]
    constructor
    · intro h
      cases h
    · rintro ⟨passed, hleads, -, -, hlen, -⟩
      cases hleads <;> simp at hlen
  | room + 1, active, s, steps => by
    rw [pathsOf]
    split
    · next hmap =>
      constructor
      · intro h
        cases h
      · rintro ⟨passed, -, -, -, -, hnomap⟩
        rw [hnomap s List.mem_cons_self] at hmap
        cases hmap
    · next hmap =>
      rw [Bool.not_eq_true] at hmap
      simp only [List.mem_flatMap, mem_pathsVia_iff, mem_pathsOf_iff]
      constructor
      · rintro ⟨⟨f, j⟩, hstep, ⟨hbind, rfl⟩ | ⟨t, rest, hent, ⟨passed, hrest⟩, rfl⟩⟩
        · have hf := List.mk_mem_zipIdx_iff_getElem?.1 hstep
          exact ⟨[], .last hf hbind, by simp, by simp, by simp, by simpa using hmap⟩
        · have hf := List.mk_mem_zipIdx_iff_getElem?.1 hstep
          obtain ⟨hm, hr, hfield, he, hact⟩ := entered_eq_some_iff.1 hent
          obtain ⟨hleads, hnodup, hfresh, hlen, hnomap⟩ := hrest
          refine ⟨t :: passed, .enter hf hm hr hfield he hleads, ?_, ?_, ?_, ?_⟩
          · rw [List.map_cons, List.nodup_cons]
            refine ⟨fun hmem => ?_, hnodup⟩
            obtain ⟨t', ht', heq⟩ := List.mem_map.1 hmem
            exact hfresh t' ht' (heq ▸ List.mem_cons_self)
          · intro t' ht'
            rcases List.mem_cons.1 ht' with rfl | ht'
            · exact hact
            · exact fun hmem => hfresh t' ht' (List.mem_cons_of_mem _ hmem)
          · simpa using hlen
          · exact List.forall_mem_cons.2 ⟨hmap, hnomap⟩
      · rintro ⟨passed, hleads, hnodup, hfresh, hlen, hnomap⟩
        cases hleads with
        | @last _ f j hf hbind =>
          exact ⟨(f, j), List.mk_mem_zipIdx_iff_getElem?.2 hf, Or.inl ⟨hbind, rfl⟩⟩
        | @enter _ t f j rest passed hf hm hr hfield he hleads =>
          rw [List.map_cons, List.nodup_cons] at hnodup
          have hent : entered d active f = some t := entered_eq_some_iff.2
            ⟨hm, hr, hfield, he, hfresh t List.mem_cons_self⟩
          refine ⟨(f, j), List.mk_mem_zipIdx_iff_getElem?.2 hf, Or.inr ⟨t, rest, hent, ?_, rfl⟩⟩
          refine ⟨passed, hleads, hnodup.2, fun t' ht' hmem => ?_, by simpa using hlen,
            (List.forall_mem_cons.1 hnomap).2⟩
          rcases List.mem_cons.1 hmem with heq | hmem
          · exact hnodup.1 (heq ▸ List.mem_map_of_mem ht')
          · exact hfresh t' (List.mem_cons_of_mem _ ht') hmem

/-- The walk takes the paths in the order of the fields. -/
theorem pairwise_pathsOf :
    ∀ (room : Nat) (active : List Position) (s : Site),
      (pathsOf d room active s).Pairwise fun a b => a.map Prod.snd < b.map Prod.snd
  | 0, _, _ => List.Pairwise.nil
  | room + 1, active, s => by
    rw [pathsOf]
    split
    · exact List.Pairwise.nil
    · have hidx : s.message.fields.zipIdx.Pairwise fun a b => a.2 < b.2 := by
        rw [← List.pairwise_map (f := Prod.snd) (R := (· < ·)), List.zipIdx_map_snd]
        exact List.pairwise_lt_range'
      refine List.pairwise_flatMap.2 ⟨fun step _ => ?_, hidx.imp fun {a b} hab x hx y hy => ?_⟩
      · unfold pathsVia
        split
        · exact List.pairwise_singleton _ _
        · cases hent : entered d active step.1 with
          | none => exact List.Pairwise.nil
          | some t =>
            refine List.pairwise_map.2 ((pairwise_pathsOf room _ t).imp fun h => ?_)
            rw [List.map_cons, List.map_cons]
            exact List.cons_lt_cons_self.2 h
      · obtain ⟨x', rfl⟩ := exists_cons_of_mem_pathsVia hx
        obtain ⟨y', rfl⟩ := exists_cons_of_mem_pathsVia hy
        exact List.Lex.rel hab

end Paths

/-! ## The flags on the paths -/

/-- A flag below a message field is named and bound through the field. -/
theorem boundFlag_enter {p : Place} {f : Field} {t : Site} {j : Nat} {help : String}
    (h : f.wireType.isMessage) (steps : FieldSteps) :
    boundFlag (p.enter f t).path (p.enter f t).lead help steps
      = boundFlag p.path p.lead help ((f, j) :: steps) := by
  cases steps with
  | nil => simp [boundFlag, FlagKind.ofWireType?_of_isMessage h]
  | cons step steps =>
    simp only [boundFlag, goPath_cons, List.map_cons, List.getLast?_cons_cons,
      String.intercalate_cons_cons, Place.enter, Place.flagName, String.append_assoc]

/-- The flags that a field contributes are those on the paths through it. -/
theorem filter_fieldFlags {d : Declarations} {help : String} {below : Place → Site → List Flag}
    {paths : List Position → Site → List FieldSteps} {p : Place}
    (hbelow : ∀ p s, ((below p s).filter Flag.isBind).map some
      = (paths p.active s).map (boundFlag p.path p.lead help)) (step : Field × Nat) :
    ((fieldFlags d help below p step.1).filter Flag.isBind).map some
      = (pathsVia d paths p.active step).map (boundFlag p.path p.lead help) := by
  obtain ⟨f, j⟩ := step
  have hnone (hm : f.holdsMessage = false) : entered d p.active f = none := by
    simp [entered, hm]
  unfold fieldFlags
  split
  · next ho =>
    have hent := hnone (holdsMessage_eq_false_of_inOneof ho)
    simp [pathsVia, isBindable, ho, hent, Flag.blocked, Flag.isBind]
  · next ho =>
    split
    · next hw =>
      have hbind : isBindable f = false := isBindable_eq_false_of_isMessage hw
      split
      · next hrep =>
        have hent : entered d p.active f = none := by simp [entered, hrep]
        simp [pathsVia, hbind, hent, Flag.blocked, Flag.isBind]
      · next hrep =>
        cases hent : entered d p.active f with
        | none => simp [pathsVia, hbind, hent]
        | some t =>
          have henter : ∀ steps, boundFlag (p.enter f t).path (p.enter f t).lead help steps
              = boundFlag p.path p.lead help ((f, j) :: steps) := boundFlag_enter hw
          simp only [pathsVia, hbind, hent, Option.elim_some, hbelow, Bool.false_eq_true, if_false,
            List.map_map]
          exact List.map_congr_left fun steps _ => henter steps
    · next hw =>
      have hent := hnone (by rw [holdsMessage_of_not_inOneof ho]; exact Bool.eq_false_iff.2 hw)
      rw [Bool.not_eq_true] at ho
      unfold scalarFlag
      split
      · next hrep => simp [pathsVia, isBindable, hrep, hent, Flag.blocked, Flag.isBind]
      · next hrep =>
        rw [Bool.not_eq_true] at hrep
        cases hkind : FlagKind.ofWireType? f.wireType with
        | none => simp [pathsVia, isBindable, hkind, hent]
        | some kind =>
          cases hopt : f.proto3Optional with
          | true => simp [pathsVia, isBindable, hopt, hent, Flag.blocked, Flag.isBind]
          | false =>
            simp [pathsVia, isBindable, boundFlag, goPath, Place.target, Place.flagName, ho, hrep,
              hkind, hopt, Flag.isBind]

/-- The flags of a message to a depth are those on the paths that the walk takes. -/
theorem filter_flagsOf (d : Declarations) (help : String) :
    ∀ (room : Nat) (p : Place) (s : Site),
      ((flagsOf d help room p s).filter Flag.isBind).map some
        = (pathsOf d room p.active s).map (boundFlag p.path p.lead help)
  | 0, _, _ => rfl
  | room + 1, p, s => by
    rw [flagsOf, pathsOf, ownFlags, hasMap]
    split
    · rfl
    · have hfields : s.message.fields.flatMap (fieldFlags d help (flagsOf d help room) p)
          = s.message.fields.zipIdx.flatMap fun step =>
            fieldFlags d help (flagsOf d help room) p step.1 := by
        conv_lhs => rw [← List.zipIdx_map_fst 0 s.message.fields]
        rw [List.flatMap_map]
      rw [hfields, List.filter_flatMap, List.map_flatMap, List.map_flatMap]
      congr 1
      funext step
      exact filter_fieldFlags (filter_flagsOf d help room) step

/-- Whatever was looked up before: the flags of a request are, in order, one for each bind path,
when the paths are ordered by the indices of their fields. Each is bound to the field at the end of
its path, under a name made of those on the path, with the kind for that field. -/
theorem binds_eq_paths (d : Declarations) (path lead : String) (s : Site) (help : String)
    (before : List Query) :
    ∃ paths : List FieldSteps, (∀ steps, steps ∈ paths ↔ BindPath d s steps) ∧
      (paths.Pairwise fun a b => a.map Prod.snd < b.map Prod.snd) ∧
      ((((flags d path lead s help).run (logAfter d before)).1.filter Flag.isBind).map some
        = paths.map (boundFlag path lead help)) := by
  refine ⟨pathsOf d (maxDepth + 1) [s.position] s, fun steps => ?_, pairwise_pathsOf _ _ _, ?_⟩
  · rw [mem_pathsOf_iff, BindPath]
    simp only [List.map_cons, List.nodup_cons, List.mem_map, List.mem_singleton, not_exists,
      not_and, maxDepth]
    constructor
    · rintro ⟨passed, hleads, hnodup, hfresh, hlen, hnomap⟩
      exact ⟨passed, hleads, ⟨hfresh, hnodup⟩, hlen, hnomap⟩
    · rintro ⟨passed, hleads, ⟨hfresh, hnodup⟩, hlen, hnomap⟩
      exact ⟨passed, hleads, hnodup, hfresh, hlen, hnomap⟩
  · rw [(yields_flags d path lead s help).fst_run (faithful_logAfter d before), filter_flagsOf]

end ServiceCli.Request
