import ServiceCli.GoFile.Build
import ServiceCli.Proofs.Paired
import ServiceCli.Proofs.Result

/-!
# The subcommands of a built file

Where a file is built, each of its methods has its own subcommand, in order, which is assembled
from the request of the method (`forall₂_subcommands`). The file imports the fixed packages and
those that the requests need, each under the options (`mem_imports_iff`).
-/

namespace ServiceCli

open Command Proto Request

/-- The methods of a file, each with its service, in order. -/
def Proto.File.calls (f : File) : List (Service × Method) :=
  f.services.flatMap fun s => s.methods.map fun m => (s, m)

/-! ## Imports in order -/

theorem GoImport.mem_insert_iff {i j : GoImport} :
    ∀ {js : List GoImport}, j ∈ GoImport.insert i js ↔ j = i ∨ j ∈ js
  | [] => by simp [GoImport.insert]
  | k :: js => by
    have ih : j ∈ GoImport.insert i js ↔ j = i ∨ j ∈ js := mem_insert_iff
    rw [GoImport.insert]
    split
    · next hk => simp [hk]
    · split
      · exact List.mem_cons
      · rw [List.mem_cons, ih, List.mem_cons]
        exact or_left_comm

/-- Nothing is lost when imports are put in order. -/
theorem GoImport.mem_ordered_iff {j : GoImport} {is : List GoImport} :
    j ∈ GoImport.ordered is ↔ j ∈ is := by
  have hfold : ∀ {is js : List GoImport},
      j ∈ is.foldl (fun js i => GoImport.insert i js) js ↔ j ∈ is ∨ j ∈ js := by
    intro is
    induction is with
    | nil => simp
    | cons i is ih =>
      intro js
      rw [List.foldl_cons, ih, GoImport.mem_insert_iff, List.mem_cons, or_assoc, or_left_comm]
  rw [GoImport.ordered, hfold]
  simp

/-! ## Building -/

/-- The type of a request is that of its skeleton, which allocates a message. -/
theorem exists_init_of_assemble {service : String} {m : Method} {init : Skeleton}
    {flags : List Flag} {c : Subcommand} (h : assemble service m init flags = .ok c) :
    ∃ fields, init = .construct c.inputType fields := by
  obtain ⟨goService, -, h⟩ := bind_eq_ok_iff.1 h
  obtain ⟨goMethod, -, h⟩ := bind_eq_ok_iff.1 h
  cases init with
  | construct typeName fields =>
    obtain rfl := Except.ok.inj h
    exact ⟨fields, rfl⟩
  | emptyList typeName => cases h
  | nothing => cases h

section Build

variable {f : File} {imports : ImportMap} {o : Options}

theorem buildSubcommand_eq_ok_iff {s : Service} {m : Method} {r : Subcommand × Option GoImport} :
    buildSubcommand f imports o s m = .ok r ↔
      assemble s.name m (requestOf f imports o m).init (requestOf f imports o m).flags = .ok r.1 ∧
        r.2 = (requestOf f imports o m).imported := by
  unfold buildSubcommand
  rw [bind_eq_ok_iff]
  constructor
  · rintro ⟨c, hc, hr⟩
    obtain rfl := Except.ok.inj hr
    exact ⟨hc, rfl⟩
  · rintro ⟨hc, hr⟩
    exact ⟨r.1, hc, by rw [← hr]; rfl⟩

theorem filterMap_subcommand?_of_assembleService {s : Service} {cs : List Subcommand}
    {defaults : ConnectionDefaults} {units : List CommandUnit}
    (h : assembleService s cs defaults = .ok units) :
    units.filterMap CommandUnit.subcommand? = cs := by
  obtain ⟨name, -, h⟩ := bind_eq_ok_iff.1 h
  have hcs : (cs.map CommandUnit.subcommand).filterMap CommandUnit.subcommand? = cs := by
    rw [List.filterMap_map]
    exact List.filterMap_some
  split at h
  · cases h
  · obtain rfl := Except.ok.inj h
    rw [List.cons_append, List.filterMap_cons_none rfl, List.filterMap_append, hcs]
    simp [CommandUnit.subcommand?]

/-- The parts of a service hold one subcommand for each method. -/
theorem forall₂_of_buildService {s : Service} {r : List CommandUnit × List GoImport}
    (h : buildService f imports o s = .ok r) :
    List.Forall₂
        (fun m c =>
          assemble s.name m (requestOf f imports o m).init (requestOf f imports o m).flags = .ok c)
        s.methods (r.1.filterMap CommandUnit.subcommand?) ∧
      r.2 = s.methods.filterMap fun m => (requestOf f imports o m).imported := by
  obtain ⟨built, hbuilt, h⟩ := bind_eq_ok_iff.1 h
  obtain ⟨units, hunits, h⟩ := bind_eq_ok_iff.1 h
  obtain rfl := Except.ok.inj h
  have hall := (mapM_eq_ok_iff.1 hbuilt).imp fun _ _ hm => buildSubcommand_eq_ok_iff.1 hm
  constructor
  · rw [filterMap_subcommand?_of_assembleService hunits, List.forall₂_map_right_iff]
    exact hall.imp fun _ _ hm => hm.1
  · exact filterMap_eq_of_forall₂ (hall.imp fun _ _ hm => hm.2)

/-- What a built file consists of. -/
theorem exists_services_of_buildFile {go : GoFile} (h : buildFile f imports o = .ok (some go)) :
    ∃ built, List.Forall₂ (fun s r => buildService f imports o s = .ok r) f.services built ∧
      go.units = built.flatMap Prod.fst ∧
      go.imports = fileImports o f.hasStream (built.flatMap Prod.snd) := by
  unfold buildFile at h
  split at h
  · obtain ⟨built, hbuilt, h⟩ := bind_eq_ok_iff.1 h
    obtain rfl := Option.some.inj (Except.ok.inj h)
    exact ⟨built, mapM_eq_ok_iff.1 hbuilt, rfl, rfl⟩
  · cases h

/-- Each method of a built file has its own subcommand, assembled from its request. -/
theorem forall₂_subcommands {go : GoFile} (h : buildFile f imports o = .ok (some go)) :
    List.Forall₂
      (fun call c => assemble call.1.name call.2 (requestOf f imports o call.2).init
        (requestOf f imports o call.2).flags = .ok c)
      f.calls go.subcommands := by
  obtain ⟨built, hbuilt, hunits, -⟩ := exists_services_of_buildFile h
  rw [GoFile.subcommands, hunits, List.filterMap_flatMap]
  refine List.rel_flatMap hbuilt fun s r hr => ?_
  rw [List.forall₂_map_left_iff]
  exact (forall₂_of_buildService hr).1

theorem exists_subcommand {go : GoFile} (h : buildFile f imports o = .ok (some go)) {k : Nat}
    {call : Service × Method} (hk : f.calls[k]? = some call) :
    ∃ c, go.subcommands[k]? = some c ∧
      assemble call.1.name call.2 (requestOf f imports o call.2).init
        (requestOf f imports o call.2).flags = .ok c := by
  have hall := forall₂_subcommands h
  obtain ⟨hcalls, rfl⟩ := List.getElem?_eq_some_iff.1 hk
  have hcs : k < go.subcommands.length := hall.length_eq ▸ hcalls
  exact ⟨go.subcommands[k], List.getElem?_eq_getElem hcs, hall.get hcalls hcs⟩

/-- The imports of a built file are made from those that its requests need. -/
theorem imports_of_buildFile {go : GoFile} (h : buildFile f imports o = .ok (some go)) :
    go.imports = fileImports o f.hasStream
      (f.calls.filterMap fun call => (requestOf f imports o call.2).imported) := by
  obtain ⟨built, hbuilt, -, himports⟩ := exists_services_of_buildFile h
  rw [himports, File.calls, List.filterMap_flatMap]
  congr 1
  refine flatMap_eq_of_forall₂ (hbuilt.imp fun s r hr => ?_)
  rw [(forall₂_of_buildService hr).2, List.filterMap_map]
  rfl

/-- A built file imports the fixed packages and those of its requests. -/
theorem mem_imports_iff {go : GoFile} (h : buildFile f imports o = .ok (some go)) {i : GoImport} :
    i ∈ go.imports ↔
      ∃ j : GoImport, (j ∈ baseImports ∨ f.hasStream ∧ j = streamImport ∨
        ∃ call ∈ f.calls, (requestOf f imports o call.2).imported = some j) ∧
        j.withOptions o = i := by
  have hstream {j : GoImport} :
      j ∈ (if f.hasStream then [streamImport] else []) ↔ f.hasStream ∧ j = streamImport := by
    split <;> simp_all
  rw [imports_of_buildFile h, fileImports]
  simp only [List.mem_map, List.mem_append, GoImport.mem_ordered_iff, List.mem_filterMap, hstream,
    or_assoc]

/-! ## Errors -/

theorem goName_ne_unknownFile (what : Named) (parent name file : String) :
    goName what parent name ≠ .error (.unknownFile file) := by
  unfold goName
  split
  · simp
  · split <;> simp

theorem buildSubcommand_ne_unknownFile (s : Service) (m : Method) (file : String) :
    buildSubcommand f imports o s m ≠ .error (.unknownFile file) := by
  intro h
  rcases bind_eq_error_iff.1 h with h | ⟨c, -, h⟩
  · rcases bind_eq_error_iff.1 h with h | ⟨goService, -, h⟩
    · exact goName_ne_unknownFile _ _ _ _ h
    · rcases bind_eq_error_iff.1 h with h | ⟨goMethod, -, h⟩
      · exact goName_ne_unknownFile _ _ _ _ h
      · split at h <;> cases h
  · cases h

theorem assembleService_ne_unknownFile (s : Service) (cs : List Subcommand)
    (defaults : ConnectionDefaults) (file : String) :
    assembleService s cs defaults ≠ .error (.unknownFile file) := by
  intro h
  rcases bind_eq_error_iff.1 h with h | ⟨name, -, h⟩
  · exact goName_ne_unknownFile _ _ _ _ h
  · split at h <;> cases h

/-- A file that is at hand is never unknown. -/
theorem buildFile_ne_unknownFile (f : File) (imports : ImportMap) (o : Options) (file : String) :
    buildFile f imports o ≠ .error (.unknownFile file) := by
  intro h
  unfold buildFile at h
  split at h
  · rcases bind_eq_error_iff.1 h with h | ⟨built, -, h⟩
    · obtain ⟨s, -, h⟩ := exists_of_mapM_eq_error h
      rcases bind_eq_error_iff.1 h with h | ⟨cs, -, h⟩
      · obtain ⟨m, -, h⟩ := exists_of_mapM_eq_error h
        exact buildSubcommand_ne_unknownFile s m file h
      · rcases bind_eq_error_iff.1 h with h | ⟨units, -, h⟩
        · exact assembleService_ne_unknownFile _ _ _ _ h
        · cases h
    · cases h
  · cases h

end Build

end ServiceCli
