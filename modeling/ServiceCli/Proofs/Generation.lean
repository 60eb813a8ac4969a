import ServiceCli.Proofs.GoFile.OutputNames

/-!
# What becomes of a target

A target has one of three fates: a file is generated for it, there is nothing to generate, or it
fails (`Fate`). `Becomes` says which one from the file of that name alone, and a target has exactly
one (`existsUnique_becomes`). Whether it fails is known before anything is built (`isSound`). What
is generated for targets is read off their fates (`result_generateTarget`).
-/

namespace ServiceCli

open Command Proto

/-- What becomes of a target. -/
inductive Fate where
  | generated (go : GoFile)
  /-- The file has no services. -/
  | skipped
  | failed (e : GenerationError)

namespace Fate

/-- The generated file, if there is one. -/
def goFile? : Fate → Option GoFile
  | generated go => some go
  | _ => none

/-- What is written, if anything is. -/
def output? (fate : Fate) : Option GeneratedFile :=
  fate.goFile?.map GoFile.written

/-- Why the target fails, if it does. -/
def fault? : Fate → Option GenerationError
  | failed e => some e
  | _ => none

/-- The fate as the result of building a file. -/
def built : Fate → Except GenerationError (Option GoFile)
  | generated go => .ok (some go)
  | skipped => .ok none
  | failed e => .error e

end Fate

/-- What becomes of a target among the files at hand: nothing if its file has no services, a failure
with what is first wrong with the names in it or if there is no such file, and else the generated
file. -/
inductive Becomes (files : List File) (o : Options) (target : String) : Fate → Prop
  | generated {f : File} {go : GoFile} : fileNamed? files target = some f →
    buildFile f (.ofFiles files o) o = .ok (some go) → Becomes files o target (.generated go)
  | skipped {f : File} : fileNamed? files target = some f → f.services = [] →
    Becomes files o target .skipped
  | refused {f : File} {e : GenerationError} : fileNamed? files target = some f →
    f.faults.head? = some e → Becomes files o target (.failed e)
  | unknown : fileNamed? files target = none →
    Becomes files o target (.failed (.unknownFile target))

/-- Whether a target failed. -/
def Outcome.failed (t : Outcome) : Bool :=
  match t.result with
  | .ok _ => false
  | .error _ => true

/-- Whether a target is that of a file without faults. -/
def isSound (files : List File) (target : String) : Bool :=
  (fileNamed? files target).any fun f => f.faults.isEmpty

/-- The fate of a target, from building its file. -/
def fateOf (files : List File) (o : Options) (target : String) : Fate :=
  match fileNamed? files target with
  | none => .failed (.unknownFile target)
  | some f =>
    match buildFile f (.ofFiles files o) o with
    | .ok (some go) => .generated go
    | .ok none => .skipped
    | .error e => .failed e

section Fate

variable {files : List File} {o : Options} {target : String} {fate : Fate}

theorem becomes_iff : Becomes files o target fate ↔ fate = fateOf files o target := by
  unfold fateOf
  constructor
  · intro h
    cases h with
    | generated hf hgo => simp [hf, hgo]
    | skipped hf hs => simp [hf, (buildFile_eq_ok_none_iff _ _ _).2 hs]
    | refused hf he => simp [hf, (failsFirst_buildFile _ _ _ _).2 he]
    | unknown hf => simp [hf]
  · rintro rfl
    cases hf : fileNamed? files target with
    | none => exact .unknown hf
    | some f =>
      dsimp only
      split
      · next go hgo => exact .generated hf hgo
      · next hnone => exact .skipped hf ((buildFile_eq_ok_none_iff _ _ _).1 hnone)
      · next e he => exact .refused hf ((failsFirst_buildFile _ _ _ e).1 he)

/-- A target has exactly one fate. -/
theorem existsUnique_becomes (files : List File) (o : Options) (target : String) :
    ∃! fate, Becomes files o target fate :=
  ⟨fateOf files o target, becomes_iff.2 rfl, fun _ h => becomes_iff.1 h⟩

theorem forall₂_becomes_iff {targets : List String} {fates : List Fate} :
    List.Forall₂ (Becomes files o) targets fates ↔ fates = targets.map (fateOf files o) :=
  forall₂_iff_eq_map (@becomes_iff files o)

/-- A target fails exactly if it is not sound. -/
theorem isSound_eq_false_iff :
    isSound files target = false ↔ ∃ e, Becomes files o target (.failed e) := by
  unfold isSound
  cases hf : fileNamed? files target with
  | none => simpa using ⟨_, Becomes.unknown hf⟩
  | some f =>
    rw [Option.any_some, List.isEmpty_eq_false_iff]
    constructor
    · intro hne
      obtain ⟨e, rest, hfaults⟩ := List.exists_cons_of_ne_nil hne
      exact ⟨e, .refused hf (by rw [hfaults]; rfl)⟩
    · rintro ⟨e, h⟩ hnil
      cases h with
      | refused hf' he =>
        obtain rfl := Option.some.inj (hf.symm.trans hf')
        rw [hnil] at he
        cases he
      | unknown hf' => exact nomatch hf.symm.trans hf'

/-- The fate of a target keeps all that building its file gives. -/
theorem built_fateOf (files : List File) (o : Options) (target : String) :
    (fateOf files o target).built =
      match fileNamed? files target with
      | some f => buildFile f (.ofFiles files o) o
      | none => .error (.unknownFile target) := by
  unfold fateOf
  cases fileNamed? files target with
  | none => rfl
  | some f =>
    dsimp only
    split
    · next go hgo => exact hgo.symm
    · next hnone => exact hnone.symm
    · next e he => exact he.symm

theorem result_generateTarget (files : List File) (o : Options) (target : String) :
    (generateTarget files o target).result
      = (fateOf files o target).built.map (Option.map GoFile.written) := by
  rw [generateTarget, built_fateOf]
  cases fileNamed? files target <;> rfl

theorem generated?_generateTarget (files : List File) (o : Options) (target : String) :
    (generateTarget files o target).generated? = (fateOf files o target).output? := by
  rw [Outcome.generated?, result_generateTarget]
  cases fateOf files o target <;> rfl

/-- What is generated for targets are the outputs of their fates, in order. -/
theorem outputs_generateFiles (files : List File) (targets : List String) (o : Options) :
    (generateFiles files targets o).filterMap Outcome.generated?
      = (targets.map (fateOf files o)).filterMap Fate.output? := by
  rw [generateFiles, List.filterMap_map, List.filterMap_map]
  exact List.filterMap_congr fun target _ => generated?_generateTarget files o target

end Fate

end ServiceCli
