import ServiceCli.Proofs.Tree.Remembered
import ServiceCli.Request.FlagWalk

/-!
# The flags of a message, field by field

The walk for flags carries one array through all messages and cuts it back at a map field.
`flagsOf` gives the flags of one message on its own: a single note if some field of it is a map,
and otherwise what its fields contribute, one after the other. `yields_flagsInto` says that the
walk leaves the flags collected before it as they are and adds exactly those.

`keysBelow` lists the keys that are looked up on the way. It serves the allocation of a request as
well, which reads all fields of a message, while the walk for flags ends at a map field
(`walkedFields`).
-/

namespace ServiceCli.Request

open Proto ServiceCli.Tree

/-! ## Fields that lead to other messages -/

/-- Whether the field is a map: it stands outside every `oneof` and refers to a map entry. -/
def isMapField (d : Declarations) (f : Field) : Bool :=
  f.holdsMessage && (d.field f).any fun s => s.message.mapEntry

/-- The declaration that is entered through a field while the messages at `active` are being
worked on: that of a single message, no map entry and not one of those. -/
def entered (d : Declarations) (active : List Position) (f : Field) : Option Site :=
  if f.holdsMessage && !f.isRepeated then
    (d.field f).filter fun s => !s.message.mapEntry && !active.contains s.position
  else none

/-- The keys that are looked up for a field, given those for the messages below. -/
def keysOfField (d : Declarations) (below : List Position → Site → List String)
    (active : List Position) (f : Field) : List String :=
  if f.holdsMessage then
    d.fieldKeys f ++ (entered d active f).elim [] fun s => below (s.position :: active) s
  else []

/-- The keys that are looked up for a message and those below it, to a depth. Of the fields of
each message those that `read` leaves are read. -/
def keysBelow (d : Declarations) (read : List Field → List Field) :
    Nat → List Position → Site → List String
  | 0, _, _ => []
  | room + 1, active, s =>
    (read s.message.fields).flatMap (keysOfField d (keysBelow d read room) active)

/-- The fields up to the first map field, with it. -/
def walkedFields (d : Declarations) : List Field → List Field
  | [] => []
  | f :: fs => if isMapField d f then [f] else f :: walkedFields d fs

theorem holdsMessage_eq_false_of_inOneof {f : Field} (h : f.inOneof) : f.holdsMessage = false := by
  simp [Field.holdsMessage, h]

theorem holdsMessage_of_not_inOneof {f : Field} (h : ¬f.inOneof) :
    f.holdsMessage = f.wireType.isMessage := by
  simp [Field.holdsMessage, h]

theorem entered_eq_some_iff {d : Declarations} {active : List Position} {f : Field} {s : Site} :
    entered d active f = some s ↔ f.holdsMessage ∧ ¬f.isRepeated ∧ d.field f = some s ∧
      s.message.mapEntry = false ∧ s.position ∉ active := by
  unfold entered
  split
  · next h =>
    simp only [Bool.and_eq_true, Bool.not_eq_true', ← Bool.not_eq_true] at h
    simp [Option.filter_eq_some_iff, h.1, h.2]
  · next h =>
    simp only [Bool.and_eq_true, Bool.not_eq_true', ← Bool.not_eq_true] at h
    constructor
    · intro hn
      simp at hn
    · rintro ⟨hm, hr, -⟩
      exact absurd ⟨hm, hr⟩ h

/-- A message that is being worked on is not entered again. -/
theorem entered_eq_none_of_mem {d : Declarations} {active : List Position} {f : Field} {s : Site}
    (hf : d.field f = some s) (h : s.position ∈ active) : entered d active f = none := by
  rw [Option.eq_none_iff_forall_ne_some]
  intro t ht
  obtain ⟨-, -, hf', -, hn⟩ := entered_eq_some_iff.1 ht
  obtain rfl : s = t := Option.some.inj (hf.symm.trans hf')
  exact hn h

/-! ## The flags of one message -/

/-- What a field contributes to the flags of its message, given the flags of those below. -/
def fieldFlags (d : Declarations) (help : String) (below : Place → Site → List Flag) (p : Place)
    (f : Field) : List Flag :=
  if f.inOneof then [.blocked (.oneofMember f.name)]
  else if f.wireType.isMessage then
    if f.isRepeated then [.blocked (.list f.name)]
    else (entered d p.active f).elim [] fun s => below (p.enter f s) s
  else (scalarFlag help p f).toList

/-- The flags of a message, given those of the messages below. -/
def ownFlags (d : Declarations) (help : String) (below : Place → Site → List Flag) (p : Place)
    (m : Message) : List Flag :=
  if m.fields.any (isMapField d) then [.blocked (.mapField m.name)]
  else m.fields.flatMap (fieldFlags d help below p)

/-- The flags of the message at a site and of those below it, to a depth. -/
def flagsOf (d : Declarations) (help : String) : Nat → Place → Site → List Flag
  | 0, _, _ => []
  | room + 1, p, s => ownFlags d help (flagsOf d help room) p s.message

/-! ## The walk -/

theorem take_append_of_le {α : Type} {out xs : Array α} {n : Nat} (h : n ≤ out.size) :
    (out ++ xs).take n = out.take n := by
  simp [Array.extract_append, h]

/-- What the walk of the fields `fs` of a message leaves, when it has collected `out` so far and
the first `start` flags of `out` are those of other messages. -/
def afterFields (d : Declarations) (help : String) (below : Place → Site → List Flag) (p : Place)
    (owner : Message) (start : Nat) (out : Array Flag) (fs : List Field) : Array Flag :=
  if fs.any (isMapField d) then (out.take start).push (.blocked (.mapField owner.name))
  else out ++ (fs.flatMap (fieldFlags d help below p)).toArray

/-- The walk into the messages below adds `below` and looks up `keys`. -/
def Adds (d : Declarations) (descend : Option Descent) (below : Place → Site → List Flag)
    (keys : List Position → Site → List String) : Prop :=
  ∀ p s out, Yields d (descend.elim (pure out) fun walk => walk p s out)
    (out ++ (below p s).toArray) (keys p.active s)

section FieldsInto

variable {d : Declarations} {help : String} {descend : Option Descent}
  {below : Place → Site → List Flag} {keys : List Position → Site → List String}
  {p : Place} {owner : Message} {start : Nat} {out : Array Flag} {f : Field} {fs : List Field}

theorem afterFields_nil : afterFields d help below p owner start out [] = out := by
  simp [afterFields]

/-- A field that is no map adds its flags. -/
theorem afterFields_cons (hs : start ≤ out.size) (hf : isMapField d f = false) :
    afterFields d help below p owner start out (f :: fs) =
      afterFields d help below p owner start (out ++ (fieldFlags d help below p f).toArray) fs := by
  simp only [afterFields, List.any_cons, hf, Bool.false_or, List.flatMap_cons,
    take_append_of_le hs, Array.append_assoc, List.append_toArray]

/-- A map field cuts the flags back to those of other messages. -/
theorem afterFields_cons_map (hf : isMapField d f) :
    afterFields d help below p owner start out (f :: fs) =
      (out.take start).push (.blocked (.mapField owner.name)) := by
  simp [afterFields, hf]

theorem walkedFields_cons (hf : isMapField d f = false) :
    walkedFields d (f :: fs) = f :: walkedFields d fs := by
  simp [walkedFields, hf]

/-- One step of the walk at a field that is no map: what is done for the field and for those
after it makes up what is done for all. -/
theorem yields_cons {x : Lookup (Array Flag)} (hs : start ≤ out.size) (hf : isMapField d f = false)
    (hx : Yields d x (afterFields d help below p owner start
        (out ++ (fieldFlags d help below p f).toArray) fs)
      (keysOfField d keys p.active f ++
        (walkedFields d fs).flatMap (keysOfField d keys p.active))) :
    Yields d x (afterFields d help below p owner start out (f :: fs))
      ((walkedFields d (f :: fs)).flatMap (keysOfField d keys p.active)) := by
  rw [afterFields_cons hs hf, walkedFields_cons hf, List.flatMap_cons]
  exact hx

theorem fieldFlags_of_holdsMessage (h : f.holdsMessage) :
    fieldFlags d help below p f = if f.isRepeated then [.blocked (.list f.name)]
      else (entered d p.active f).elim [] fun s => below (p.enter f s) s := by
  simp only [Field.holdsMessage, Bool.and_eq_true, Bool.not_eq_true'] at h
  rw [fieldFlags, h.2, h.1, if_neg Bool.false_ne_true, if_pos rfl]

theorem keysOfField_of_holdsMessage {active : List Position} (h : f.holdsMessage) :
    keysOfField d keys active f = d.fieldKeys f ++
      (entered d active f).elim [] fun s => keys (s.position :: active) s := by
  rw [keysOfField, if_pos h]

/-- The step at a message field that refers to the declaration at `s`, which is no map entry. The
fields after it are walked by `rest`. -/
theorem yields_found {s : Site} (hm : f.holdsMessage)
    (hf : d.field f = some s) (he : s.message.mapEntry = false)
    (rest : Array Flag → Lookup (Array Flag)) (after : Array Flag → Array Flag) {ls : List String}
    (hr : ∀ xs : List Flag, Yields d (rest (out ++ xs.toArray)) (after (out ++ xs.toArray)) ls) :
    Adds d descend below keys → Yields d
      (if f.isRepeated then rest (out.push (.blocked (.list f.name)))
        else if p.active.contains s.position then rest out
        else
          match descend with
          | some walk => do rest (← walk (p.enter f s) s out)
          | none => rest out)
      (after (out ++ (fieldFlags d help below p f).toArray))
      (((entered d p.active f).elim [] fun s => keys (s.position :: p.active) s) ++ ls) := by
  intro hd
  rw [fieldFlags_of_holdsMessage hm]
  split
  · next hrep =>
    have hent : entered d p.active f = none := by simp [entered, hrep]
    rw [hent]
    simpa using hr [.blocked (.list f.name)]
  · next hrep =>
    split
    · next hact =>
      rw [entered_eq_none_of_mem hf (List.contains_iff_mem.1 hact)]
      simpa using hr []
    · next hact =>
      have hent : entered d p.active f = some s :=
        entered_eq_some_iff.2 ⟨hm, hrep, hf, he, fun h => hact (List.contains_iff_mem.2 h)⟩
      have hstep := (hd (p.enter f s) s out).bind (f := rest) (hr (below (p.enter f s) s))
      rw [hent]
      cases descend with
      | none => exact hstep
      | some walk => exact hstep

/-- The walk of some of the fields of a message, after `out` was collected. -/
theorem yields_fieldsInto (hd : Adds d descend below keys) :
    ∀ (fs : List Field) (out : Array Flag), start ≤ out.size →
      Yields d (fieldsInto d help descend p owner start fs out)
        (afterFields d help below p owner start out fs)
        ((walkedFields d fs).flatMap (keysOfField d keys p.active))
  | [], out, _ => by
    rw [afterFields_nil]
    exact yields_pure out
  | f :: fs, out, hs => by
    have ih : ∀ xs : List Flag, Yields d (fieldsInto d help descend p owner start fs
        (out ++ xs.toArray)) (afterFields d help below p owner start (out ++ xs.toArray) fs)
        ((walkedFields d fs).flatMap (keysOfField d keys p.active)) := fun xs =>
      yields_fieldsInto hd fs _ (by simp only [Array.size_append]; omega)
    rw [fieldsInto]
    split
    · next ho =>
      -- The type of a member of a oneof is not looked up.
      have hm := holdsMessage_eq_false_of_inOneof ho
      apply yields_cons hs (by simp [isMapField, hm])
      rw [fieldFlags, if_pos ho, keysOfField, hm]
      simpa using ih [.blocked (.oneofMember f.name)]
    · next ho =>
      split
      · next hw =>
        have hm : f.holdsMessage := by rw [holdsMessage_of_not_inOneof ho, hw]
        cases hf : d.field f with
        | none =>
          have hent : entered d p.active f = none := by simp [entered, hf]
          apply yields_cons hs (by simp [isMapField, hf])
          rw [keysOfField_of_holdsMessage hm, List.append_assoc]
          refine (yields_resolveField f).bind ?_
          rw [hf, fieldFlags_of_holdsMessage hm, hent]
          dsimp only
          split
          · simpa using ih [.blocked (.list f.name)]
          · simpa using ih []
        | some s =>
          cases he : s.message.mapEntry with
          | true =>
            -- The walk ends here, and what the message added so far is dropped.
            have hmap : isMapField d f := by simp [isMapField, hm, hf, he]
            have hent : entered d p.active f = none := by simp [entered, hf, he]
            rw [afterFields_cons_map hmap, walkedFields, if_pos hmap, List.flatMap_singleton,
              keysOfField_of_holdsMessage hm, hent]
            refine (yields_resolveField f).bind ?_
            rw [hf]
            simpa [he] using yields_pure _
          | false =>
            apply yields_cons hs (by simp [isMapField, hf, he])
            rw [keysOfField_of_holdsMessage hm, List.append_assoc]
            refine (yields_resolveField f).bind ?_
            rw [hf]
            dsimp only
            rw [he, if_neg Bool.false_ne_true]
            exact yields_found hm hf he (fieldsInto d help descend p owner start fs)
              (fun out => afterFields d help below p owner start out fs) ih hd
      · next hw =>
        have hm : f.holdsMessage = false := by
          rw [holdsMessage_of_not_inOneof ho]
          exact Bool.eq_false_iff.2 hw
        apply yields_cons hs (by simp [isMapField, hm])
        rw [fieldFlags, if_neg ho, if_neg hw, keysOfField, hm]
        cases hq : scalarFlag help p f with
        | some flag => simpa using ih [flag]
        | none => simpa using ih []

end FieldsInto

/-- The walk of a message leaves the flags collected before as they are and adds those of the
message. -/
theorem yields_flagsInto (d : Declarations) (help : String) :
    ∀ (depth : Nat) (p : Place) (s : Site) (out : Array Flag),
      Yields d (flagsInto d help depth p s out) (out ++ (flagsOf d help (depth + 1) p s).toArray)
        (keysBelow d (walkedFields d) (depth + 1) p.active s) := by
  intro depth
  have hown : ∀ (below : Place → Site → List Flag) (p : Place) (s : Site) (out : Array Flag),
      afterFields d help below p s.message out.size out s.message.fields
        = out ++ (ownFlags d help below p s.message).toArray := by
    intro below p s out
    unfold afterFields ownFlags
    split <;> simp
  induction depth with
  | zero =>
    intro p s out
    have hd : Adds d none (flagsOf d help 0) (keysBelow d (walkedFields d) 0) := by
      intro p s out
      simpa [flagsOf, keysBelow] using yields_pure out
    rw [flagsInto, flagsOf, ← hown]
    exact yields_fieldsInto hd s.message.fields out (Nat.le_refl _)
  | succ depth ih =>
    intro p s out
    have hd : Adds d (some (flagsInto d help depth)) (flagsOf d help (depth + 1))
        (keysBelow d (walkedFields d) (depth + 1)) := ih
    rw [flagsInto, flagsOf, ← hown]
    exact yields_fieldsInto hd s.message.fields out (Nat.le_refl _)

/-- The flags of a request. -/
theorem yields_flags (d : Declarations) (path lead : String) (s : Site) (help : String) :
    Yields d (flags d path lead s help)
      (flagsOf d help (maxDepth + 1) ⟨path, lead, [s.position]⟩ s)
      (keysBelow d (walkedFields d) (maxDepth + 1) [s.position] s) := by
  have h := (yields_flagsInto d help maxDepth ⟨path, lead, [s.position]⟩ s #[]).bind
    (f := fun found => pure found.toList) (yields_pure _)
  simpa [flags] using h

end ServiceCli.Request
