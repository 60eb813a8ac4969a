import ServiceCli.Proofs.GoFile.Faults
import ServiceCli.Proofs.GoFile.Imports
import ServiceCli.Proofs.GoFile.Units

/-!
# The names that a generated file declares

The function that makes a subcommand is named by the names of its service and its method, one
behind the other (`map_constructor_subcommands`), so two services may give one name between them:
`A` with `BC` and `AB` with `C`. Within a service this cannot be, since its commands are called by
different names (`nodup_constructors_of_wellNamed`). `nodup_names_iff` says for each kind of name
which services, methods and packages have to be different.
-/

namespace ServiceCli

open Command Proto Request Text

/-! ## Which names differ -/

theorem constructorName_inj {service method service' method' : String} :
    constructorName service method = constructorName service' method' ↔
      service ++ method = service' ++ method' := by
  simp only [constructorName, ← String.toList_inj, String.toList_append, List.append_assoc,
    List.append_cancel_left_eq]
  rw [← List.append_assoc, ← List.append_assoc, List.append_cancel_right_eq]

section Built

variable {f : File} {imports : ImportMap} {o : Options} {go : GoFile}

theorem map_constructor_subcommands (h : buildFile f imports o = .ok (some go)) :
    go.subcommands.map Subcommand.constructor
      = f.services.flatMap fun s => s.methods.map fun m =>
          constructorName (camel s.name) (camel m.name) := by
  have hcalls : go.subcommands.map Subcommand.constructor
      = f.calls.map fun call => constructorName (camel call.1.name) (camel call.2.name) :=
    map_eq_of_forall₂ ((forall₂_subcommands h).imp fun call c hc =>
      (madeFor_of_assemble hc).constructor)
  rw [hcalls, File.calls, List.map_flatMap]
  simp only [List.map_map, Function.comp_def]

theorem nodup_constructors_of_wellNamed {s : Service} (h : s.WellNamed) :
    (s.methods.map fun m => constructorName (camel s.name) (camel m.name)).Nodup := by
  have hnames : (s.methods.map fun m => camel m.name).Nodup := by
    have huse := h.useNames
    rw [Service.useNames, ← Function.comp_def lowered fun m : Method => camel m.name,
      ← List.map_map] at huse
    exact huse.of_map
  rw [← Function.comp_def (constructorName (camel s.name)) fun m : Method => camel m.name,
    ← List.map_map]
  refine hnames.map fun a b hab => ?_
  exact (String.append_right_inj _).1 (constructorName_inj.1 hab)

/-- The functions that make the subcommands of a built file have different names exactly if no
names of a service and its method, one behind the other, are those of another service and one of
its methods. -/
theorem nodup_constructors_iff (h : buildFile f imports o = .ok (some go)) :
    (go.subcommands.map Subcommand.constructor).Nodup ↔
      f.services.Pairwise fun s s' => ∀ m ∈ s.methods, ∀ m' ∈ s'.methods,
        camel s.name ++ camel m.name ≠ camel s'.name ++ camel m'.name := by
  obtain ⟨-, hwell⟩ := (exists_goFile_iff f imports o).1 ⟨go, h⟩
  rw [map_constructor_subcommands h, List.nodup_flatMap]
  constructor
  · rintro ⟨-, hdisjoint⟩
    refine hdisjoint.imp fun hss m hm m' hm' hnames => ?_
    exact hss (List.mem_map_of_mem hm)
      (constructorName_inj.2 hnames ▸ List.mem_map_of_mem hm')
  · intro hpairs
    refine ⟨fun s hs => nodup_constructors_of_wellNamed (hwell s hs), hpairs.imp fun hss => ?_⟩
    intro name hname hname'
    obtain ⟨m, hm, rfl⟩ := List.mem_map.1 hname
    obtain ⟨m', hm', hnames⟩ := List.mem_map.1 hname'
    exact hss m hm m' hm' (constructorName_inj.1 hnames.symm)

end Built

/-- The functions, the service groups and the imports of a built file have different names each
exactly if three things hold: no names of a service and its method, one behind the other, are those
of another service and one of its methods, no two services have one Go name, and no two packages
that requests come from have one name in Go and different paths. -/
theorem nodup_names_iff {f : File} {imports : ImportMap} {o : Options} {go : GoFile}
    (h : buildFile f imports o = .ok (some go)) :
    ((go.subcommands.map Subcommand.constructor).Nodup ↔
      f.services.Pairwise fun s s' => ∀ m ∈ s.methods, ∀ m' ∈ s'.methods,
        camel s.name ++ camel m.name ≠ camel s'.name ++ camel m'.name) ∧
    ((go.groups.map ServiceGroup.name).Nodup ↔
      (f.services.map fun s => camel s.name).Nodup) ∧
    ((go.imports.map GoImport.name).Nodup ↔
      ∀ p ∈ f.foreignPackages imports, ∀ q ∈ f.foreignPackages imports,
        QualifiedName.aliasOf p = QualifiedName.aliasOf q → imports.get? p = imports.get? q) :=
  ⟨nodup_constructors_iff h, by rw [groups_of_buildFile h, List.map_map]; rfl,
    nodup_names_imports_iff h⟩

/-- A file whose services share names in all three ways. -/
def clashingFile : File := {
  name := "shop.proto"
  package := "shop"
  services := [
    { name := "Item", methods := [
      { name := "ListAll", inputType := ".store.v1.Query", outputType := ".shop.Items" }] },
    { name := "ItemList", methods := [
      { name := "All", inputType := ".store_v1.Query", outputType := ".shop.Items" }] },
    { name := "item_list" }] }

/-- The Go paths of the packages that its requests come from. -/
def clashingImports : ImportMap :=
  ⟨[("store.v1", "example.com/store/v1"), ("store_v1", "example.com/store_v1")]⟩

/-- No service of the file is refused, yet no kind of name is without a repetition. -/
theorem nodup_names_clashingFile : ∃ go, buildFile clashingFile clashingImports {} = .ok (some go) ∧
    ¬(go.subcommands.map Subcommand.constructor).Nodup ∧
    ¬(go.groups.map ServiceGroup.name).Nodup ∧
    ¬(go.imports.map GoImport.name).Nodup := by
  obtain ⟨go, h⟩ := (exists_goFile_iff clashingFile clashingImports {}).2
    ⟨by decide, by rw [← File.faults_eq_nil_iff]; decide⟩
  obtain ⟨hconstructors, hgroups, himports⟩ := nodup_names_iff h
  exact ⟨go, h, by rw [hconstructors]; decide, by rw [hgroups]; decide,
    by rw [himports]; decide +kernel⟩

end ServiceCli
