import ServiceCli.Proofs.GoFile.Faults
import ServiceCli.Proofs.GoFile.Imports
import ServiceCli.Proofs.GoFile.Units
import ServiceCli.Proofs.GoText.Named

/-!
# Which imports are used

Go refuses a file with an import that nothing in it uses. A built file uses the imports that every
service needs, since it has a service, and what a stream or a type from another package needs is
imported for a method that uses it (`qualifies_of_imported`). But the imports that only subcommands
use stand in every file, and the text of a file without methods names none of them
(`not_qualifies_of_calls_eq_nil`). So all imports are used exactly if some service of the file has a
method (`qualifies_imports_iff`).
-/

namespace ServiceCli

open Command GoText Proto Request Text

theorem isIdentifierPart_of_isIdentifier {s : String} (h : isIdentifier s) :
    ∀ c ∈ s.toList, isIdentifierPart c := by
  have hstart : ∀ c, isIdentifierStart c → isIdentifierPart c := by
    intro c hc
    rw [isIdentifierStart, Bool.or_eq_true] at hc
    rw [isIdentifierPart, Bool.or_eq_true, Char.isAlphanum, Bool.or_eq_true]
    exact hc.imp_left Or.inl
  rw [isIdentifier] at h
  cases hs : s.toList with
  | nil => exact List.forall_mem_nil _
  | cons c cs =>
    rw [hs, Bool.and_eq_true, List.all_eq_true] at h
    exact List.forall_mem_cons.2 ⟨hstart c h.1, h.2⟩

theorem isIdentifierPart_groupOf (o : Options) {s : Service} (h : IsUsable s.name) :
    ∀ c ∈ (groupOf o s).name.toList, isIdentifierPart c := by
  have hname : (groupOf o s).name = camel s.name := rfl
  rw [hname]
  exact isIdentifierPart_of_isIdentifier h.2

section Built

variable {f : File} {imports : ImportMap} {o : Options} {go : GoFile}

/-! ## Used imports -/

theorem exists_subcommand_of_mem_calls (h : buildFile f imports o = .ok (some go))
    {call : Service × Method} (hcall : call ∈ f.calls) :
    ∃ c ∈ go.subcommands, c.steps = (StreamingMode.ofMethod call.2).dispatch ∧
      (∀ x ∈ c.method.toList, isIdentifierPart x) ∧
      ∃ fields, (requestOf f imports o call.2).init = .construct c.inputType fields := by
  obtain ⟨k, hk⟩ := List.mem_iff_getElem?.1 hcall
  obtain ⟨c, hc, hassemble⟩ := exists_subcommand h hk
  obtain ⟨-, hmethod, -⟩ := eq_of_assemble hassemble
  have hmade := madeFor_of_assemble hassemble
  refine ⟨c, List.mem_of_getElem? hc, hmade.steps, ?_, exists_init_of_assemble hassemble⟩
  rw [hmade.method]
  exact isIdentifierPart_of_isIdentifier hmethod.2

theorem qualifies_of_mem_groupImports (h : buildFile f imports o = .ok (some go)) {name : String}
    (hname : name ∈ groupImports) : Qualifies name (body go.units) := by
  obtain ⟨hne, hwell⟩ := (exists_goFile_iff f imports o).1 ⟨go, h⟩
  obtain ⟨s, hs⟩ := List.exists_mem_of_ne_nil _ hne
  exact qualifies_body (group_mem_units h hs)
    (qualifies_groupText (isIdentifierPart_groupOf o (hwell s hs).service) hname)

theorem qualifies_of_mem_callImports (h : buildFile f imports o = .ok (some go))
    (hcalls : f.calls ≠ []) {name : String} (hname : name ∈ callImports) :
    Qualifies name (body go.units) := by
  obtain ⟨call, hcall⟩ := List.exists_mem_of_ne_nil _ hcalls
  obtain ⟨c, hc, hsteps, hmethod, -⟩ := exists_subcommand_of_mem_calls h hcall
  refine qualifies_body (subcommand_mem_units hc) ?_
  simp only [callImports, List.mem_cons, List.not_mem_nil, or_false] at hname
  rcases hname with rfl | rfl | rfl
  · exact qualifies_log
  · exact qualifies_proto hsteps
  · exact qualifies_context hsteps hmethod

/-- A package is imported for streams only where a subcommand has one. -/
theorem qualifies_of_hasStream (h : buildFile f imports o = .ok (some go)) (hs : f.hasStream) :
    Qualifies streamImport.name (body go.units) := by
  obtain ⟨s, hs, hstream⟩ := List.any_eq_true.1 hs
  obtain ⟨m, hm, hmode⟩ := List.any_eq_true.1 hstream
  have hcall : (s, m) ∈ f.calls := List.mem_flatMap.2 ⟨s, hs, List.mem_map_of_mem hm⟩
  obtain ⟨c, hc, hsteps, -, -⟩ := exists_subcommand_of_mem_calls h hcall
  exact qualifies_body (subcommand_mem_units hc) (qualifies_streamImport hsteps hmode)

/-- A request that needs an import has a type that the import qualifies. -/
theorem exists_typeName_of_imported {m : Method} {i : GoImport}
    (hi : (requestOf f imports o m).imported = some i) :
    ∃ typeName, (requestOf f imports o m).init = .construct (i.name ++ "." ++ typeName) [] := by
  cases hpath : relativePath f.package m.inputType with
  | some path =>
    rw [requestOf, hpath] at hi
    dsimp only at hi
    split at hi <;> cases hi
  | none =>
    exact ⟨_, by rw [init_of_foreign hpath, hi]; rfl⟩

theorem qualifies_of_imported (h : buildFile f imports o = .ok (some go))
    {call : Service × Method} (hcall : call ∈ f.calls) {i : GoImport}
    (hi : (requestOf f imports o call.2).imported = some i) :
    Qualifies i.name (body go.units) := by
  obtain ⟨c, hc, -, -, fields, hinit⟩ := exists_subcommand_of_mem_calls h hcall
  obtain ⟨typeName, htype⟩ := exists_typeName_of_imported hi
  rw [hinit] at htype
  exact qualifies_body (subcommand_mem_units hc) (qualifies_inputType (Skeleton.construct.inj htype).1)

/-! ## Unused imports -/

theorem not_qualifies_of_calls_eq_nil (h : buildFile f imports o = .ok (some go))
    (hcalls : f.calls = []) {name : String} (hname : name ∈ callImports) :
    ¬Qualifies name (body go.units) := by
  have hnone : go.subcommands = [] := by
    have hlength := (forall₂_subcommands h).length_eq
    rw [hcalls] at hlength
    exact List.length_eq_zero_iff.1 hlength.symm
  intro hq
  rcases exists_of_qualifies_body
    (newline_notMem_of_mem_callNames (toList_mem_callNames hname)) hq with hq | ⟨u, hu, hq⟩
  · exact not_qualifies_versionAssertion hname hq
  · obtain ⟨s, -, hs, hcases⟩ := mem_units_cases h hu
    rcases hcases with rfl | ⟨c, hc, -⟩ | ⟨cs, hcs, rfl⟩
    · rw [unitText] at hq
      exact not_qualifies_groupText (isIdentifierPart_groupOf o hs) hname hq
    · rw [hnone] at hc
      cases hc
    · rw [hnone] at hcs
      rw [List.subset_nil.1 hcs, unitText] at hq
      exact not_qualifies_subcommandListText (isIdentifierPart_of_isIdentifier hs.2) hname hq

/-- An import of a built file is used unless only subcommands use it and there is none. So all
imports are used exactly if some service has a method. -/
theorem qualifies_imports_iff (h : buildFile f imports o = .ok (some go)) :
    (∀ i ∈ go.imports, Qualifies i.name (body go.units) ↔
      (i.name ∈ callImports → f.calls ≠ [])) ∧
    ((∀ i ∈ go.imports, Qualifies i.name (body go.units)) ↔ f.calls ≠ []) := by
  have hused : ∀ i ∈ go.imports, Qualifies i.name (body go.units) ↔
      (i.name ∈ callImports → f.calls ≠ []) := by
    intro i hi
    obtain ⟨j, hj, rfl⟩ := (mem_imports_iff h).1 hi
    rw [GoImport.name_withOptions]
    constructor
    · exact fun hq hname hcalls => not_qualifies_of_calls_eq_nil h hcalls hname hq
    · intro hcalls
      have hbase : ∀ j ∈ baseImports, j.name ∈ groupImports ∨ j.name ∈ callImports := by decide
      rcases hj with hj | ⟨hstream, rfl⟩ | ⟨call, hcall, hj⟩
      · rcases hbase j hj with hname | hname
        · exact qualifies_of_mem_groupImports h hname
        · exact qualifies_of_mem_callImports h (hcalls hname) hname
      · exact qualifies_of_hasStream h hstream
      · exact qualifies_of_imported h hcall hj
  refine ⟨hused, fun hall => ?_, fun hcalls i hi => (hused i hi).2 fun _ => hcalls⟩
  have hlog : GoImport.withOptions o ⟨"log", "log"⟩ ∈ go.imports :=
    (mem_imports_iff h).2 ⟨⟨"log", "log"⟩, Or.inl (by decide), rfl⟩
  exact (hused _ hlog).1 (hall _ hlog) (by rw [GoImport.name_withOptions]; decide)

end Built

/-- A file with a service that has no methods is built, and it uses not all of its imports. -/
theorem unused_imports_idle : ∃ go,
    buildFile { name := "idle.proto", services := [{ name := "Idle" }] } {} {} = .ok (some go) ∧
      ¬∀ i ∈ go.imports, Qualifies i.name (body go.units) := by
  obtain ⟨go, h⟩ := (exists_goFile_iff
    { name := "idle.proto", services := [{ name := "Idle" }] } {} {}).2
    ⟨by decide, by rw [← File.faults_eq_nil_iff]; decide⟩
  refine ⟨go, h, fun hall => ?_⟩
  exact (qualifies_imports_iff h).2.1 hall (by decide)

end ServiceCli
