import ServiceCli.Generation
import ServiceCli.Proofs.Command.Assembled
import ServiceCli.Proofs.GoFile.RequestTypes

/-!
# Which files are refused

A file is refused for its names alone. `File.faults` lists what is wrong with them in the order in
which it is looked for: a service is looked at once with each of its methods and once more before
its commands are compared. `failsFirst_buildFile` says that the first fault is the error, and
`faults_eq_nil_iff` that there is none exactly if Go can use all names and no service has two
commands of one name. Requests are never at fault, since each of them has a type whatever the
messages are (`exists_construct_requestOf`). `outcome_of_names` puts this together for the building
and the generating of a file.
-/

namespace ServiceCli

open Command Proto Request Text

/-! ## Faults -/

/-- What is wrong with the name of a service or a method. -/
def Command.nameFaults (what : Named) (parent name : String) : List GenerationError :=
  if name = "" then [.emptyName what parent]
  else if isIdentifier (camel name) then []
  else [.invalidIdentifier what (camel name)]

/-- The texts of a list that occur earlier in it, each time that they do. -/
def Command.repetitions (ss : List String) : List String :=
  ss.zipIdx.filterMap fun p => if p.1 ∈ ss.take p.2 then some p.1 else none

namespace Proto

/-- The names by which the commands of a service are called. -/
def Service.useNames (s : Service) : List String :=
  s.methods.map fun m => lowered (camel m.name)

/-- What is wrong with a service: with its name and that of each method in turn, with its name
again, and with the names of its commands. -/
def Service.faults (s : Service) : List GenerationError :=
  s.methods.flatMap (fun m => nameFaults .service "file" s.name ++ nameFaults .method s.name m.name)
    ++ nameFaults .service "file" s.name
    ++ (repetitions s.useNames).map (.duplicateSubcommand s.name)

/-- What is wrong with a file. -/
def File.faults (f : File) : List GenerationError :=
  f.services.flatMap Service.faults

/-- Go can use the names of a service and of its methods, and its commands have different names. -/
structure Service.WellNamed (s : Service) : Prop where
  service : IsUsable s.name
  methods : ∀ m ∈ s.methods, IsUsable m.name
  useNames : s.useNames.Nodup

end Proto

/-! ## Files without faults -/

theorem nameFaults_eq_nil_iff {what : Named} {parent name : String} :
    nameFaults what parent name = [] ↔ IsUsable name := by
  unfold nameFaults IsUsable
  split
  · next h => simp [h]
  · next h => split <;> simp_all

theorem mem_nameFaults {what : Named} {parent name : String} {e : GenerationError}
    (h : e ∈ nameFaults what parent name) :
    e = .emptyName what parent ∨ e = .invalidIdentifier what (camel name) := by
  unfold nameFaults at h
  split at h
  · exact Or.inl (List.mem_singleton.1 h)
  · split at h
    · cases h
    · exact Or.inr (List.mem_singleton.1 h)

/-- The first repetition is found by walking the list with what came before. -/
theorem repeated?_eq_head? :
    ∀ seen ss : List String, repeated? seen ss =
      (ss.zipIdx.filterMap fun p =>
        if p.1 ∈ seen ∨ p.1 ∈ ss.take p.2 then some p.1 else none).head?
  | _, [] => rfl
  | seen, s :: ss => by
    rw [repeated?, List.zipIdx_cons, List.filterMap_cons]
    by_cases hs : s ∈ seen
    · simp [hs]
    · have hrest := repeated?_eq_head? (s :: seen) ss
      simp only [hs, if_false, List.take_zero, List.not_mem_nil, or_self]
      rw [hrest, List.zipIdx_succ, List.filterMap_map]
      congr 2
      funext p
      simp only [Function.comp_apply, List.take_succ_cons, List.mem_cons, or_assoc, or_left_comm]

theorem repeated?_nil_eq_head? (ss : List String) :
    repeated? [] ss = (repetitions ss).head? := by
  simp [repeated?_eq_head?, repetitions]

theorem repetitions_eq_nil_iff {ss : List String} : repetitions ss = [] ↔ ss.Nodup := by
  rw [← List.head?_eq_none_iff, ← repeated?_nil_eq_head?, repeated?_eq_none_iff]
  simp

theorem Proto.Service.faults_eq_nil_iff {s : Service} : s.faults = [] ↔ s.WellNamed := by
  simp only [Service.faults, List.append_eq_nil_iff, List.flatMap_eq_nil_iff, nameFaults_eq_nil_iff,
    List.map_eq_nil_iff, repetitions_eq_nil_iff]
  constructor
  · rintro ⟨⟨hmethods, hs⟩, hnames⟩
    exact ⟨hs, fun m hm => (hmethods m hm).2, hnames⟩
  · rintro ⟨hs, hmethods, hnames⟩
    exact ⟨⟨fun m hm => ⟨hs, hmethods m hm⟩, hs⟩, hnames⟩

theorem Proto.File.faults_eq_nil_iff {f : File} :
    f.faults = [] ↔ ∀ s ∈ f.services, s.WellNamed := by
  simp only [File.faults, List.flatMap_eq_nil_iff, Service.faults_eq_nil_iff]

/-- A fault is one of a name, or a second command of one name. -/
theorem mem_faults {f : File} {e : GenerationError} (h : e ∈ f.faults) :
    (∃ what parent, e = .emptyName what parent) ∨
      (∃ what name, e = .invalidIdentifier what name) ∨
      ∃ service useName, e = .duplicateSubcommand service useName := by
  obtain ⟨s, -, h⟩ := List.mem_flatMap.1 h
  have hname {what : Named} {parent name : String} (hmem : e ∈ nameFaults what parent name) :
      (∃ what parent, e = .emptyName what parent) ∨
        (∃ what name, e = .invalidIdentifier what name) ∨
        ∃ service useName, e = .duplicateSubcommand service useName := by
    rcases mem_nameFaults hmem with rfl | rfl
    · exact Or.inl ⟨_, _, rfl⟩
    · exact Or.inr (Or.inl ⟨_, _, rfl⟩)
  rw [Service.faults, List.mem_append, List.mem_append] at h
  rcases h with (hmethods | hservice) | hrepeated
  · obtain ⟨m, -, hm⟩ := List.mem_flatMap.1 hmethods
    rcases List.mem_append.1 hm with hservice | hmethod
    · exact hname hservice
    · exact hname hmethod
  · exact hname hservice
  · obtain ⟨useName, -, rfl⟩ := List.mem_map.1 hrepeated
    exact Or.inr (Or.inr ⟨_, _, rfl⟩)

/-! ## The error is the first fault -/

theorem failsFirst_goName (what : Named) (parent name : String) :
    FailsFirst (nameFaults what parent name) (goName what parent name) := by
  unfold nameFaults goName
  split
  · exact failsFirst_error _ _
  · split
    · exact failsFirst_ok _
    · exact failsFirst_error _ _

theorem failsFirst_assemble (service : String) (m : Method) (typeName : String)
    (fields : List (String × Skeleton)) (flags : List Flag) :
    FailsFirst (nameFaults .service "file" service ++ nameFaults .method service m.name)
      (assemble service m (.construct typeName fields) flags) := by
  refine (failsFirst_goName _ _ _).bind fun goService _ => ?_
  have hmethod := (failsFirst_goName .method service m.name).bind
    (f := fun goMethod => pure
      (subcommandOf goService goMethod typeName m (.construct typeName fields) flags))
    fun goMethod _ => failsFirst_ok _
  rwa [List.append_nil] at hmethod

theorem failsFirst_assembleService (s : Service) (cs : List Subcommand)
    (defaults : ConnectionDefaults) :
    FailsFirst
      (nameFaults .service "file" s.name
        ++ (repetitions (cs.map Subcommand.useName)).map (.duplicateSubcommand s.name))
      (assembleService s cs defaults) := by
  refine (failsFirst_goName _ _ _).bind fun name _ => ?_
  rw [repeated?_nil_eq_head?]
  cases repetitions (cs.map Subcommand.useName) with
  | nil => exact failsFirst_ok _
  | cons useName rest => exact failsFirst_error _ _

section Build

variable (f : File) (imports : ImportMap) (o : Options)

/-- Every request has a type, whatever its messages refer to: the allocation of a request stands at
the top, where no depth is used up. -/
theorem exists_construct_requestOf (m : Method) :
    ∃ typeName fields, (requestOf f imports o m).init = .construct typeName fields := by
  cases h : relativePath f.package m.inputType with
  | some path =>
    exact ⟨_, init_of_relativePath h⟩
  | none =>
    exact ⟨_, [], init_of_foreign h⟩

theorem failsFirst_buildSubcommand (s : Service) (m : Method) :
    FailsFirst (nameFaults .service "file" s.name ++ nameFaults .method s.name m.name)
      (buildSubcommand f imports o s m) := by
  obtain ⟨typeName, fields, hinit⟩ := exists_construct_requestOf f imports o m
  have hassemble := failsFirst_assemble s.name m typeName fields (requestOf f imports o m).flags
  rw [← hinit] at hassemble
  have hbuild := hassemble.bind
    (f := fun c => pure (c, (requestOf f imports o m).imported)) fun c _ => failsFirst_ok _
  rwa [List.append_nil] at hbuild

/-- The commands of a service that are built are called by its names for them. -/
theorem useNames_of_mapM {s : Service} {built : List (Subcommand × Option GoImport)}
    (h : s.methods.mapM (buildSubcommand f imports o s) = .ok built) :
    (built.map Prod.fst).map Subcommand.useName = s.useNames := by
  rw [Service.useNames, List.map_map]
  exact map_eq_of_forall₂ ((mapM_eq_ok_iff.1 h).imp fun m r hm =>
    (madeFor_of_assemble (buildSubcommand_eq_ok_iff.1 hm).1).useName)

theorem failsFirst_buildService (s : Service) :
    FailsFirst s.faults (buildService f imports o s) := by
  rw [Service.faults, List.append_assoc]
  refine (FailsFirst.mapM (failsFirst_buildSubcommand f imports o s) s.methods).bind
    fun built hbuilt => ?_
  have hunits := (failsFirst_assembleService s (built.map Prod.fst) o.connectionDefaults).bind
    (f := fun units => pure (units, built.filterMap Prod.snd)) fun units _ => failsFirst_ok _
  rwa [List.append_nil, useNames_of_mapM f imports o hbuilt] at hunits

theorem failsFirst_buildFile : FailsFirst f.faults (buildFile f imports o) := by
  unfold buildFile
  split
  · have hbuilt := (FailsFirst.mapM (failsFirst_buildService f imports o) f.services).bind
      (f := fun built => pure (some {
        source := f.name
        outputName := o.outputName f
        package := f.goPackageName
        imports := fileImports o f.hasStream (built.flatMap Prod.snd)
        units := built.flatMap Prod.fst : GoFile })) fun built _ => failsFirst_ok _
    rwa [List.append_nil] at hbuilt
  · next hs =>
    have hnil : f.services = [] := by simpa [File.hasServices] using hs
    rw [File.faults, hnil]
    exact failsFirst_ok _

theorem buildFile_eq_ok_none_iff : buildFile f imports o = .ok none ↔ f.services = [] := by
  unfold buildFile
  split
  · next hs =>
    have hne : f.services ≠ [] := by simpa [File.hasServices] using hs
    simp only [hne, iff_false]
    intro h
    obtain ⟨built, -, h⟩ := bind_eq_ok_iff.1 h
    cases h
  · next hs =>
    have hnil : f.services = [] := by simpa [File.hasServices] using hs
    exact ⟨fun _ => hnil, fun _ => rfl⟩

theorem exists_goFile_iff : (∃ go, buildFile f imports o = .ok (some go)) ↔
    f.services ≠ [] ∧ ∀ s ∈ f.services, s.WellNamed := by
  rw [← File.faults_eq_nil_iff, ← (failsFirst_buildFile f imports o).exists_eq_ok_iff, ne_eq,
    ← buildFile_eq_ok_none_iff f imports o]
  constructor
  · rintro ⟨go, h⟩
    exact ⟨(nomatch h.symm.trans ·), _, h⟩
  · rintro ⟨hnone, built, h⟩
    cases built with
    | none => exact absurd h hnone
    | some go => exact ⟨go, h⟩

end Build

/-- Whether a file is generated, and the error if it is refused, is fixed by its services: by the
names that they and their methods have. -/
theorem map_isSome_buildFile (f : File) (imports : ImportMap) (o : Options) :
    (buildFile f imports o).map Option.isSome =
      match f.faults.head? with
      | some e => .error e
      | none => .ok (!f.services.isEmpty) := by
  have hfails := failsFirst_buildFile f imports o
  cases h : buildFile f imports o with
  | error e =>
    rw [(hfails e).1 h]
    rfl
  | ok built =>
    rw [hfails.exists_eq_ok_iff.1 ⟨built, h⟩]
    cases built with
    | none => simp [(buildFile_eq_ok_none_iff f imports o).1 h, Except.map]
    | some go =>
      obtain ⟨hne, -⟩ := (exists_goFile_iff f imports o).1 ⟨go, h⟩
      simpa [Except.map] using hne

/-- Building a file gives nothing exactly if it has no services, a generated file exactly if it has
services and all of them are well named, and else the first fault as its error. Generating it fails
in the same way. No error is that of a request without a type, writing cannot fail, and nothing but
the services makes a difference: neither the messages nor the imports nor the options. -/
theorem outcome_of_names (f : File) (imports : ImportMap) (o : Options) :
    (buildFile f imports o = .ok none ↔ f.services = []) ∧
      ((∃ go, buildFile f imports o = .ok (some go)) ↔
        f.services ≠ [] ∧ ∀ s ∈ f.services, s.WellNamed) ∧
      (∀ e, buildFile f imports o = .error e ↔ f.faults.head? = some e) ∧
      (generateFile f imports o).map Option.isSome = (buildFile f imports o).map Option.isSome ∧
      (∀ e ∈ f.faults, (∃ what parent, e = .emptyName what parent) ∨
        (∃ what name, e = .invalidIdentifier what name) ∨
        ∃ service useName, e = .duplicateSubcommand service useName) ∧
      ∀ (f' : File) (imports' : ImportMap) (o' : Options),
        (buildFile { f' with services := f.services } imports' o').map Option.isSome
          = (buildFile f imports o).map Option.isSome := by
  refine ⟨buildFile_eq_ok_none_iff f imports o, exists_goFile_iff f imports o,
    failsFirst_buildFile f imports o, ?_, fun e => mem_faults, fun f' imports' o' => ?_⟩
  · unfold generateFile
    cases buildFile f imports o with
    | error e => rfl
    | ok built => cases built <;> rfl
  · rw [map_isSome_buildFile, map_isSome_buildFile]
    rfl

/-- A service with two methods of one command name and one without a name: the missing name is
found first. -/
example : File.faults {
    name := "pager.proto"
    services := [{
      name := "Pager"
      methods := [
        { name := "get_page", inputType := ".Page", outputType := ".Page" },
        { name := "GetPage", inputType := ".Page", outputType := ".Page" },
        { name := "", inputType := ".Page", outputType := ".Page" }] }] }
    = [.emptyName .method "Pager", .duplicateSubcommand "Pager" "getpage"] := by
  decide

end ServiceCli
