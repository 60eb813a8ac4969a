import ServiceCli.Proofs.Command.Assembled
import ServiceCli.Proofs.GoFile.Subcommands

/-!
# The parts of a built file

A built file has one block of parts for each service, in order (`exists_blocks_of_buildFile`): the
group of the service, its subcommands and the list of the functions that make them
(`serviceUnits`). So it has a group for each service (`groups_of_buildFile`), and no part but those
of the blocks (`mem_units_cases`).
-/

namespace ServiceCli

open Command Proto Request Text

/-- The service group that a part is, if it is one. -/
def Command.CommandUnit.group? : CommandUnit → Option ServiceGroup
  | group g => some g
  | _ => none

/-- The service groups of a file, in order. -/
def GoFile.groups (f : GoFile) : List ServiceGroup :=
  f.units.filterMap CommandUnit.group?

/-- The group of a service. -/
def groupOf (o : Options) (s : Service) : ServiceGroup :=
  ⟨camel s.name, lowered (camel s.name), o.connectionDefaults⟩

/-- The parts of a service with these subcommands. -/
def serviceUnits (o : Options) (s : Service) (cs : List Subcommand) : List CommandUnit :=
  .group (groupOf o s) :: cs.map .subcommand
    ++ [.subcommandList (camel s.name) (cs.map Subcommand.constructor)]

theorem filterMap_group?_serviceUnits (o : Options) (s : Service) (cs : List Subcommand) :
    (serviceUnits o s cs).filterMap CommandUnit.group? = [groupOf o s] := by
  simp [serviceUnits, CommandUnit.group?]

section Built

variable {f : File} {imports : ImportMap} {o : Options} {go : GoFile}

/-- A built file consists of the parts of its services. -/
theorem exists_blocks_of_buildFile (h : buildFile f imports o = .ok (some go)) :
    ∃ blocks : List (List CommandUnit), go.units = blocks.flatten ∧
      List.Forall₂ (fun s units => IsUsable s.name ∧ ∃ cs, units = serviceUnits o s cs ∧
        List.Forall₂ (fun m c => assemble s.name m (requestOf f imports o m).init
          (requestOf f imports o m).flags = .ok c) s.methods cs)
        f.services blocks := by
  obtain ⟨built, hbuilt, hunits, -⟩ := exists_services_of_buildFile h
  refine ⟨built.map Prod.fst, hunits, ?_⟩
  rw [List.forall₂_map_right_iff]
  refine hbuilt.imp fun s r hr => ?_
  obtain ⟨cs, hcs, hr⟩ := bind_eq_ok_iff.1 hr
  obtain ⟨units, hunits, hr⟩ := bind_eq_ok_iff.1 hr
  obtain rfl := Except.ok.inj hr
  obtain ⟨hs, -, rfl⟩ := assembleService_eq_ok_iff.1 hunits
  refine ⟨hs, cs.map Prod.fst, rfl, ?_⟩
  rw [List.forall₂_map_right_iff]
  exact (mapM_eq_ok_iff.1 hcs).imp fun m r hm => (buildSubcommand_eq_ok_iff.1 hm).1

/-- A built file has one group for each service. -/
theorem groups_of_buildFile (h : buildFile f imports o = .ok (some go)) :
    go.groups = f.services.map (groupOf o) := by
  obtain ⟨blocks, hunits, hblocks⟩ := exists_blocks_of_buildFile h
  have hgroup : List.Forall₂ (fun s units => units.filterMap CommandUnit.group? = [groupOf o s])
      f.services blocks := by
    refine hblocks.imp fun s units hs => ?_
    obtain ⟨-, cs, rfl, -⟩ := hs
    exact filterMap_group?_serviceUnits o s cs
  rw [GoFile.groups, hunits, List.filterMap_flatten, ← List.flatMap_def,
    flatMap_eq_of_forall₂ hgroup, List.map_eq_flatMap]

/-- A part of a built file is the group of a service, a subcommand or a list of functions that make
subcommands. -/
theorem mem_units_cases (h : buildFile f imports o = .ok (some go)) {u : CommandUnit}
    (hu : u ∈ go.units) :
    ∃ s ∈ f.services, IsUsable s.name ∧ (u = .group (groupOf o s) ∨
      (∃ c ∈ go.subcommands, u = .subcommand c) ∨
      ∃ cs ⊆ go.subcommands, u = .subcommandList (camel s.name) (cs.map Subcommand.constructor)) := by
  obtain ⟨blocks, hunits, hblocks⟩ := exists_blocks_of_buildFile h
  rw [hunits] at hu
  obtain ⟨units, hblock, hu⟩ := List.mem_flatten.1 hu
  obtain ⟨s, hs, husable, cs, rfl, -⟩ := exists_of_mem_of_forall₂ hblocks hblock
  have hcs : cs ⊆ go.subcommands := by
    intro c hc
    refine List.mem_filterMap.2 ⟨.subcommand c, ?_, rfl⟩
    rw [hunits]
    exact List.mem_flatten_of_mem hblock (by simp [serviceUnits, hc])
  refine ⟨s, hs, husable, ?_⟩
  rcases List.mem_append.1 hu with hu | hu
  · rcases List.mem_cons.1 hu with rfl | hu
    · exact Or.inl rfl
    · obtain ⟨c, hc, rfl⟩ := List.mem_map.1 hu
      exact Or.inr (Or.inl ⟨c, hcs hc, rfl⟩)
  · obtain rfl := List.mem_singleton.1 hu
    exact Or.inr (Or.inr ⟨cs, hcs, rfl⟩)

theorem group_mem_units (h : buildFile f imports o = .ok (some go)) {s : Service}
    (hs : s ∈ f.services) : .group (groupOf o s) ∈ go.units := by
  have hgroup : groupOf o s ∈ go.groups := by
    rw [groups_of_buildFile h]
    exact List.mem_map_of_mem hs
  obtain ⟨u, hu, hg⟩ := List.mem_filterMap.1 hgroup
  cases u with
  | group g => exact Option.some.inj hg ▸ hu
  | subcommand c | subcommandList service constructors => cases hg

theorem subcommand_mem_units {c : Subcommand} (hc : c ∈ go.subcommands) :
    .subcommand c ∈ go.units := by
  obtain ⟨u, hu, hsome⟩ := List.mem_filterMap.1 hc
  cases u with
  | subcommand c' => exact Option.some.inj hsome ▸ hu
  | group g | subcommandList service constructors => cases hsome

end Built

end ServiceCli
