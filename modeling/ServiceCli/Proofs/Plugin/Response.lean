import ServiceCli.Plugin.Response
import ServiceCli.Proofs.Generation

/-!
# A response accounts for every target

A response is made of the fates of the targets, in order: its files are those that were generated,
and its error has one line for each target that failed (`errorLines_generateFiles`). The fate of a
target is the same whatever other targets there are, so targets that fail may come and go without
touching the files of the others (`outputs_eq_filter_isSound`). `respond_accounts` puts this
together.
-/

namespace ServiceCli.Plugin

open Command Proto

/-- The line in the error of a response for a target, if the target fails. -/
def faultLine? (target : String) (fate : Fate) : Option String :=
  fate.fault?.map fun e => target ++ ": " ++ e.message

/-- The lines in the error of a response, in the order of the targets. -/
def faultLines (targets : List String) (fates : List Fate) : List String :=
  (List.zipWith faultLine? targets fates).reduceOption

section Target

variable (files : List File) (o : Options) (target : String)

theorem errorLine?_generateTarget :
    errorLine? (generateTarget files o target) = faultLine? target (fateOf files o target) := by
  rw [errorLine?, result_generateTarget]
  cases fateOf files o target <;> rfl

/-- A target that is not sound has no output. -/
theorem output?_eq_none_of_not_isSound (h : isSound files target = false) :
    (fateOf files o target).output? = none := by
  obtain ⟨e, he⟩ := (isSound_eq_false_iff (o := o)).1 h
  rw [← becomes_iff.1 he]
  rfl

end Target

section Targets

variable (files : List File) (o : Options) (targets : List String)

theorem errorLines_generateFiles : (generateFiles files targets o).filterMap errorLine?
    = faultLines targets (targets.map (fateOf files o)) := by
  rw [generateFiles, faultLines, List.filterMap_map, List.zipWith_map_right, List.zipWith_self]
  change _ = (targets.map _).filterMap id
  rw [List.filterMap_map]
  exact List.filterMap_congr fun target _ => errorLine?_generateTarget files o target

/-- Only sound targets have an output. -/
theorem outputs_eq_filter_isSound : (targets.map (fateOf files o)).filterMap Fate.output?
    = ((targets.filter (isSound files)).map (fateOf files o)).filterMap Fate.output? := by
  rw [List.filterMap_map, List.filterMap_map, List.filterMap_filter]
  refine List.filterMap_congr fun target _ => ?_
  split
  · rfl
  · next hsound =>
    exact output?_eq_none_of_not_isSound files o target (Bool.eq_false_iff.2 hsound)

/-- There are no lines exactly if no target fails. -/
theorem faultLines_eq_nil_iff : faultLines targets (targets.map (fateOf files o)) = [] ↔
    ∀ fate ∈ targets.map (fateOf files o), fate.fault? = none := by
  rw [← errorLines_generateFiles, generateFiles, List.filterMap_map, List.filterMap_eq_nil_iff,
    List.forall_mem_map]
  refine forall₂_congr fun target _ => ?_
  rw [Function.comp_apply, errorLine?_generateTarget, faultLine?, Option.map_eq_none_iff]

end Targets

theorem error_ofOutcomes (outcomes : List Outcome) : (Response.ofOutcomes outcomes).error =
    if outcomes.filterMap errorLine? = [] then none
    else some (String.intercalate "\n" (outcomes.filterMap errorLine?)) := by
  rw [Response.ofOutcomes]
  cases outcomes.filterMap errorLine? <;> rfl

/-- A parameter that is refused is the only error of the response, which has no files then. Else
each target has one fate. The response has the files that were generated for the targets, in their
order, and an error exactly if some target fails: a line for each one that does, in their order. The
files are the same for all targets among which those that do not fail are the same, in the same
order. -/
theorem respond_accounts (r : Request) :
    match Options.ofParameter r.parameter with
    | .error e => respond r = { error := some e.message, files := [] }
    | .ok o =>
      (∀ target, ∃! fate, Becomes r.files o target fate) ∧
      (∀ target, isSound r.files target = false ↔ ∃ e, Becomes r.files o target (.failed e)) ∧
      (∃ fates, List.Forall₂ (Becomes r.files o) r.targets fates ∧
        (respond r).files = fates.filterMap Fate.output? ∧
        ((respond r).error = none ↔ ∀ fate ∈ fates, fate.fault? = none) ∧
        ∀ text, (respond r).error = some text →
          text = String.intercalate "\n" (faultLines r.targets fates)) ∧
      ∀ targets, targets.filter (isSound r.files) = r.targets.filter (isSound r.files) →
        (respond { r with targets := targets }).files = (respond r).files := by
  cases ho : Options.ofParameter r.parameter with
  | error e => simp [respond, ho]
  | ok o =>
    have hrespond (targets : List String) : respond { r with targets := targets }
        = .ofOutcomes (generateFiles r.files targets o) := by
      rw [respond, ho]
    have hfiles (targets : List String) : (respond { r with targets := targets }).files
        = (targets.map (fateOf r.files o)).filterMap Fate.output? := by
      rw [hrespond]
      exact outputs_generateFiles r.files targets o
    have herror : (respond r).error =
        if faultLines r.targets (r.targets.map (fateOf r.files o)) = [] then none
        else some (String.intercalate "\n"
          (faultLines r.targets (r.targets.map (fateOf r.files o)))) := by
      rw [hrespond r.targets, error_ofOutcomes, errorLines_generateFiles]
    refine ⟨existsUnique_becomes r.files o, fun target => isSound_eq_false_iff,
      ⟨r.targets.map (fateOf r.files o), forall₂_becomes_iff.2 rfl, hfiles r.targets, ?_, ?_⟩, ?_⟩
    · rw [herror, ← faultLines_eq_nil_iff]
      split <;> simp_all
    · intro text htext
      rw [herror] at htext
      split at htext
      · cases htext
      · exact (Option.some.inj htext).symm
    · intro targets hsame
      rw [hfiles, hfiles r.targets, outputs_eq_filter_isSound, hsame, ← outputs_eq_filter_isSound]

/-- A target that is not at hand does not keep the one after it from being generated. -/
example :
    let r := respond {
      files := [{ name := "idle.proto" }, { name := "a.proto", services := [{ name := "A" }] }]
      targets := ["gone.proto", "idle.proto", "a.proto"] }
    r.error = some "gone.proto: no descriptor loaded for 'gone.proto'" ∧
      r.files.map GeneratedFile.name = ["a.cobra.pb.go"] := by
  decide +kernel

end ServiceCli.Plugin
