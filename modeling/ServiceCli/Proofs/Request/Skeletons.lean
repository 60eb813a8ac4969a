import ServiceCli.Proofs.Request.Flags
import ServiceCli.Request.Allocation

/-!
# The skeleton of a message, field by field

`skeletonOf` gives the skeleton of one message on its own: the values of its fields
(`fieldValue`), set one after the other, and those that are nothing left out. `yields_allocate`
says that the allocation comes to it. Of two fields of one Go name the later value is kept.
-/

namespace ServiceCli.Request

open Proto ServiceCli.Tree

/-! ## The skeleton of one message -/

/-- The declaration of which a field holds a list, unless it is a map entry. -/
def listed (d : Declarations) (f : Field) : Option Site :=
  if f.holdsMessage && f.isRepeated then (d.field f).filter fun s => !s.message.mapEntry else none

/-- The value of a field in the skeleton of its message, given the skeletons of those below. -/
def fieldValue (d : Declarations) (below : List Position → Site → Skeleton)
    (active : List Position) (f : Field) : Skeleton :=
  match listed d f, entered d active f with
  | some s, _ => .emptyList s.goName
  | none, some s => below (s.position :: active) s
  | none, none => .nothing

/-- The entry of a field in the skeleton of its message, if it has a value. -/
def entryOf (d : Declarations) (below : List Position → Site → Skeleton)
    (active : List Position) (f : Field) : Option (String × Skeleton) :=
  if (fieldValue d below active f).isNothing then none
  else some (f.goName, fieldValue d below active f)

/-- The fields of a skeleton after more of them are set. -/
def setAll (out entries : List (String × Skeleton)) : List (String × Skeleton) :=
  entries.foldl (fun out e => Skeleton.setField e.1 e.2 out) out

/-- The skeleton of the message at a site, whose Go type is given, to a depth. -/
def skeletonOf (d : Declarations) : Nat → String → List Position → Site → Skeleton
  | 0, _, _, _ => .nothing
  | room + 1, typeName, active, s =>
    .construct typeName (setAll [] (s.message.fields.filterMap
      (entryOf d (fun active s => skeletonOf d room s.goName active s) active)))

/-! ## The allocation -/

section Allocation

variable {d : Declarations} {inner : Allocator} {below : List Position → Site → Skeleton}
  {keys : List Position → Site → List String} {active : List Position} {f : Field} {s : Site}

theorem fieldValue_eq_nothing (hm : f.holdsMessage = false) :
    fieldValue d below active f = .nothing := by
  simp [fieldValue, listed, entered, hm]

theorem fieldValue_of_entered (h : entered d active f = some s) :
    fieldValue d below active f = below (s.position :: active) s := by
  have hr := (entered_eq_some_iff.1 h).2.1
  simp [fieldValue, listed, h, hr]

/-- The value of a field that refers to the declaration at `s`, which is no map entry. -/
theorem yields_fieldSkeleton
    (hi : ∀ active s, Yields d (inner active s) (below active s) (keys active s))
    (hm : f.holdsMessage) (hf : d.field f = some s) (he : s.message.mapEntry = false) :
    Yields d (fieldSkeleton inner active f s) (fieldValue d below active f)
      ((entered d active f).elim [] fun s => keys (s.position :: active) s) := by
  unfold fieldSkeleton
  split
  · next hrep =>
    have hent : entered d active f = none := by simp [entered, hrep]
    have hlist : listed d f = some s := by simp [listed, hm, hrep, hf, he]
    rw [fieldValue, hlist, hent]
    exact yields_pure _
  · next hrep =>
    split
    · next hact =>
      have hent := entered_eq_none_of_mem hf (List.contains_iff_mem.1 hact)
      have hlist : listed d f = none := by simp [listed, hrep]
      rw [fieldValue, hlist, hent]
      exact yields_pure _
    · next hact =>
      have hent : entered d active f = some s :=
        entered_eq_some_iff.2 ⟨hm, hrep, hf, he, fun h => hact (List.contains_iff_mem.2 h)⟩
      rw [fieldValue_of_entered hent, hent]
      exact hi _ _

theorem setAll_entry (out : List (String × Skeleton)) (fs : List Field) :
    setAll out ((f :: fs).filterMap (entryOf d below active)) =
      setAll (if (fieldValue d below active f).isNothing then out
        else Skeleton.setField f.goName (fieldValue d below active f) out)
        (fs.filterMap (entryOf d below active)) := by
  rw [List.filterMap_cons, entryOf]
  cases (fieldValue d below active f).isNothing <;> rfl

/-- The allocation of some of the fields of a message, after `out` was set. -/
theorem yields_allocateFields
    (hi : ∀ active s, Yields d (inner active s) (below active s) (keys active s))
    (active : List Position) :
    ∀ (fs : List Field) (out : List (String × Skeleton)),
      Yields d (allocateFields d inner active fs out)
        (setAll out (fs.filterMap (entryOf d below active)))
        (fs.flatMap (keysOfField d keys active))
  | [], out => yields_pure out
  | f :: fs, out => by
    have ih : ∀ out, Yields d (allocateFields d inner active fs out)
        (setAll out (fs.filterMap (entryOf d below active)))
        (fs.flatMap (keysOfField d keys active)) := yields_allocateFields hi active fs
    rw [allocateFields, setAll_entry, List.flatMap_cons]
    split
    · next hm =>
      rw [keysOfField_of_holdsMessage hm, List.append_assoc]
      refine (yields_resolveField f).bind ?_
      cases hf : d.field f with
      | none =>
        have hval : fieldValue d below active f = .nothing := by
          simp [fieldValue, listed, entered, hf]
        have hent : entered d active f = none := by simp [entered, hf]
        rw [hval, hent]
        exact ih out
      | some s =>
        cases he : s.message.mapEntry with
        | true =>
          have hlist : listed d f = none := by simp [listed, hf, he]
          have hent : entered d active f = none := by simp [entered, hf, he]
          rw [fieldValue, hlist, hent]
          dsimp only
          rw [he, if_pos rfl]
          exact ih out
        | false =>
          dsimp only
          rw [he, if_neg Bool.false_ne_true]
          refine (yields_fieldSkeleton hi hm hf he).bind ?_
          split
          · exact ih out
          · exact ih _
    · next hm =>
      have hm' : f.holdsMessage = false := Bool.eq_false_iff.2 hm
      rw [fieldValue_eq_nothing hm', keysOfField, hm']
      exact ih out

end Allocation

/-- The allocation of a message gives its skeleton. -/
theorem yields_allocate (d : Declarations) :
    ∀ (room : Nat) (typeName : String) (active : List Position) (s : Site),
      Yields d (allocate d room typeName active s) (skeletonOf d room typeName active s)
        (keysBelow d id room active s)
  | 0, _, _, _ => yields_pure _
  | room + 1, typeName, active, s => by
    have hi : ∀ active s, Yields d (allocate d room s.goName active s)
        (skeletonOf d room s.goName active s) (keysBelow d id room active s) :=
      fun active s => yields_allocate d room s.goName active s
    have hfields := yields_allocateFields hi active s.message.fields []
    have h := hfields.bind (f := fun fields => pure (Skeleton.construct typeName fields))
      (yields_pure _)
    rw [List.append_nil] at h
    exact h

/-- The skeleton of a request. -/
theorem yields_skeleton (d : Declarations) (s : Site) (typePrefix : String) (depth : Nat) :
    Yields d (skeleton d s typePrefix depth)
      (skeletonOf d (maxDepth + 1 - depth) (typePrefix ++ s.message.name) [s.position] s)
      (keysBelow d id (maxDepth + 1 - depth) [s.position] s) :=
  yields_allocate d _ _ _ s

end ServiceCli.Request
