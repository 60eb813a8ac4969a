import ServiceCli.Proofs.GoFile.Names
import ServiceCli.Proofs.GoText.References

/-!
# The parts of a service belong together

A built file is a row of blocks, one for each service (`Block`). The group of a block, its
subcommands and their list all carry the Go name of the service, though each of them is given it on
its own, and the list names the functions that make these subcommands and no others (`Linked`). So
the texts of a block declare what they call of one another (`Linked.joined`).
-/

namespace ServiceCli

open Command GoText Proto Request Text

/-- What a generated file has for one service. -/
structure Block where
  group : ServiceGroup
  subcommands : List Subcommand
  /-- The service that the list of subcommands is for. -/
  listed : String
  /-- The functions in that list. -/
  constructors : List String

namespace Block

/-- The parts of a block, in order. -/
def units (b : Block) : List CommandUnit :=
  .group b.group :: b.subcommands.map .subcommand ++ [.subcommandList b.listed b.constructors]

/-- The parts of a block have one service, whose name Go can use, and the list has the functions
that make the subcommands, no two of which have one name or are called by one. -/
structure Linked (b : Block) : Prop where
  isIdentifier : isIdentifier b.group.name
  service : ∀ c ∈ b.subcommands, c.service = b.group.name
  listed : b.listed = b.group.name
  constructors : b.constructors = b.subcommands.map Subcommand.constructor
  nodup_constructors : b.constructors.Nodup
  nodup_useNames : (b.subcommands.map Subcommand.useName).Nodup

/-- The texts of a block declare what they refer to in one another: the group the function that the
subcommands call with a client of the service, the list the variable that the group reads, and each
subcommand the function by which the list names it. -/
structure Joined (b : Block) : Prop where
  roundTrip : HasLine (groupText b.group) (roundTripLine b.group.name)
  callType : HasLine (groupText b.group) (callTypeLine b.group.name)
  calls : ∀ c ∈ b.subcommands, HasLine (subcommandText c) (callLine b.group.name)
  registration : HasLine (groupText b.group) (registrationLine b.group.name)
  list : HasLine (subcommandListText b.listed b.constructors) (listLine b.group.name)
  constructors : List.Forall₂ (fun constructor c =>
      HasLine (subcommandListText b.listed b.constructors) (listedLine constructor) ∧
        HasLine (subcommandText c) (constructorLine constructor))
    b.constructors b.subcommands

theorem Linked.joined {b : Block} (h : b.Linked) : b.Joined where
  roundTrip := hasLine_roundTrip b.group
  callType := hasLine_callType b.group
  calls c hc := by
    rw [← h.service c hc]
    exact hasLine_callLine c
  registration := hasLine_registration b.group
  list := by
    rw [← h.listed]
    exact hasLine_list b.listed
  constructors := by
    rw [h.constructors, List.forall₂_map_left_iff, List.forall₂_same]
    exact fun c hc => ⟨hasLine_listed _ (List.mem_map_of_mem hc), hasLine_constructor c⟩

end Block

/-- The block of a service with these subcommands. -/
def blockOf (o : Options) (s : Service) (cs : List Subcommand) : Block :=
  ⟨groupOf o s, cs, camel s.name, cs.map Subcommand.constructor⟩

section Built

variable {f : File} {imports : ImportMap} {o : Options} {s : Service} {cs : List Subcommand}

theorem linked_blockOf (hs : s.WellNamed)
    (h : List.Forall₂ (fun m c => assemble s.name m (requestOf f imports o m).init
      (requestOf f imports o m).flags = .ok c) s.methods cs) : (blockOf o s cs).Linked where
  isIdentifier := hs.service.2
  service c hc := by
    obtain ⟨m, -, hm⟩ := exists_of_mem_of_forall₂ h hc
    exact (madeFor_of_assemble hm).service
  listed := rfl
  constructors := rfl
  nodup_constructors := by
    have hmap : cs.map Subcommand.constructor
        = s.methods.map fun m => constructorName (camel s.name) (camel m.name) :=
      map_eq_of_forall₂ (h.imp fun m c hc => (madeFor_of_assemble hc).constructor)
    have hnodup := nodup_constructors_of_wellNamed hs
    rwa [← hmap] at hnodup
  nodup_useNames := by
    have hmap : cs.map Subcommand.useName = s.useNames :=
      map_eq_of_forall₂ (h.imp fun m c hc => (madeFor_of_assemble hc).useName)
    have hnodup := hs.useNames
    rwa [← hmap] at hnodup

end Built

/-- A built file consists of one block for each service, in order. It is the block of that service
and has one subcommand for each of its methods, in order, with the name of the method in Go and its
streams. The parts of each block are linked, and their texts declare what they refer to in one
another. -/
theorem exists_linked_blocks {f : File} {imports : ImportMap} {o : Options} {go : GoFile}
    (h : buildFile f imports o = .ok (some go)) :
    ∃ blocks : List Block, go.units = blocks.flatMap Block.units ∧
      List.Forall₂ (fun s b =>
          b.group.name = camel s.name ∧
          List.Forall₂ (fun m c => c.method = camel m.name ∧ c.mode = .ofMethod m)
            s.methods b.subcommands ∧
          b.Linked ∧ b.Joined)
        f.services blocks := by
  obtain ⟨-, hwell⟩ := (exists_goFile_iff f imports o).1 ⟨go, h⟩
  obtain ⟨parts, hunits, hparts⟩ := exists_blocks_of_buildFile h
  obtain ⟨blocks, rfl, hblocks⟩ := exists_map_of_forall₂ (g := Block.units)
    (R := fun s b => ∃ cs, b = blockOf o s cs ∧
      List.Forall₂ (fun m c => assemble s.name m (requestOf f imports o m).init
        (requestOf f imports o m).flags = .ok c) s.methods cs)
    (hparts.imp fun s units ⟨_, cs, hunits, hcs⟩ => ⟨blockOf o s cs, hunits, cs, rfl, hcs⟩)
  refine ⟨blocks, by rw [hunits, List.flatMap_def],
    ((List.forall₂_and_left ..).2 ⟨hwell, hblocks⟩).imp fun s b hb => ?_⟩
  obtain ⟨hs, cs, rfl, hcs⟩ := hb
  have hlinked := linked_blockOf hs hcs
  refine ⟨rfl, hcs.imp fun m c hc => ?_, hlinked, hlinked.joined⟩
  have hmade := madeFor_of_assemble hc
  exact ⟨hmade.method, hmade.mode⟩

/-- A file with two services, the second of which has two methods and one stream. -/
def stations : File where
  name := "stations.proto"
  package := "stations"
  services := [
    { name := "station_admin" },
    { name := "Station", methods := [
      { name := "get_one", inputType := ".stations.Id", outputType := ".stations.Item" },
      { name := "Watch", inputType := ".stations.Id", outputType := ".stations.Item"
        serverStreaming := true }] }]

/-- The blocks of that file are two, the first without subcommands and the second with two. -/
theorem linked_blocks_stations : ∃ go, buildFile stations {} {} = .ok (some go) ∧
    ∃ admin station : Block, go.units = admin.units ++ station.units ∧
      admin.Linked ∧ admin.group.name = "StationAdmin" ∧ admin.subcommands = [] ∧
      station.Linked ∧ station.group.name = "Station" ∧
      station.subcommands.map (fun c => (c.method, c.mode))
        = [("GetOne", .unary), ("Watch", .serverStreaming)] := by
  obtain ⟨go, h⟩ := (exists_goFile_iff stations {} {}).2
    ⟨by decide, by rw [← File.faults_eq_nil_iff]; decide⟩
  obtain ⟨blocks, hunits, hblocks⟩ := exists_linked_blocks h
  have hservices : stations.services = [stations.services[0], stations.services[1]] := rfl
  rw [hservices] at hblocks
  obtain ⟨admin, others, ⟨hadmin, hnone, hlinked, -⟩, hothers, rfl⟩ :=
    List.forall₂_cons_left_iff.1 hblocks
  obtain ⟨station, rest, ⟨hstation, hboth, hlinked', -⟩, hrest, rfl⟩ :=
    List.forall₂_cons_left_iff.1 hothers
  obtain rfl := List.forall₂_nil_left_iff.1 hrest
  refine ⟨go, h, admin, station, by rw [hunits]; simp, hlinked, hadmin.trans (by decide), ?_,
    hlinked', hstation.trans (by decide), ?_⟩
  · exact List.forall₂_nil_left_iff.1 hnone
  · exact (map_eq_of_forall₂ (k := fun m : Method => (camel m.name, StreamingMode.ofMethod m))
      (hboth.imp fun m c hc => by rw [hc.1, hc.2])).trans (by decide)

end ServiceCli
