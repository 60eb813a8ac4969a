import ServiceCli.Proofs.GoFile.Faults
import ServiceCli.Proofs.Text.Cuts

/-!
# Where generated files are placed

The path of a generated file is that of a directory and the stem of the `.proto` file
(`outputName_eq`). Under the import layout the directory is the Go import path of the file, which
other files may share, and the directory of the `.proto` file is lost. So two files are generated
at one path exactly if they have one stem and one directory (`outputName_eq_iff`), and
`nodup_outputNames_iff` says this of all files that are generated for the targets.
-/

namespace ServiceCli

open Command Proto Text

/-! ## Directories -/

/-- The path of a directory, in front of a name in it. -/
def folderText : Option String → String
  | some d => d ++ "/"
  | none => ""

theorem cutLast_folderText {d : Option String} {name : String} (h : '/' ∉ name.toList) :
    cutLast '/' (folderText d ++ name) = d.map fun d => (d, name) := by
  cases d with
  | none => simpa [folderText] using cutLast_eq_none_iff.2 h
  | some d => exact cutLast_eq_some_iff.2 ⟨by simp [folderText], h⟩

theorem folderText_append_inj {d d' : Option String} {name name' : String}
    (h : '/' ∉ name.toList) (h' : '/' ∉ name'.toList) :
    folderText d ++ name = folderText d' ++ name' ↔ d = d' ∧ name = name' := by
  constructor
  · intro heq
    have hcut := congrArg (cutLast '/') heq
    rw [cutLast_folderText h, cutLast_folderText h'] at hcut
    cases d with
    | none =>
      obtain rfl := Option.map_eq_none_iff.1 hcut.symm
      exact ⟨rfl, by simpa [folderText] using heq⟩
    | some d =>
      obtain ⟨d', rfl, hd⟩ := Option.map_eq_some_iff.1 hcut.symm
      obtain ⟨rfl, rfl⟩ := Prod.mk.inj hd
      exact ⟨rfl, rfl⟩
  · rintro ⟨rfl, rfl⟩
    rfl

theorem lastPiece_folderText {d : Option String} {name : String} (h : '/' ∉ name.toList) :
    lastPiece '/' (folderText d ++ name) = name := by
  rw [lastPiece, cutLast_folderText h]
  cases d with
  | none => exact String.empty_append
  | some d => rfl

/-- The directory and the last piece of a path make up the path. -/
theorem folderText_cutLast (path : String) :
    folderText ((cutLast '/' path).map Prod.fst) ++ lastPiece '/' path = path := by
  rw [lastPiece]
  cases h : cutLast '/' path with
  | none => exact String.empty_append
  | some cut =>
    obtain ⟨hpath, -⟩ := cutLast_eq_some_iff.1 h
    rw [← String.toList_inj]
    simp [folderText, hpath]

/-! ## Paths of generated files -/

/-- The stem of a file is found in its path without the ending as well. -/
theorem Proto.File.stem_eq (f : File) : f.stem = lastPiece '/' (dropTail ".proto" f.name) := by
  rw [File.stem]
  by_cases hproto : ∃ r, f.name = r ++ ".proto"
  · obtain ⟨r, hr⟩ := hproto
    have hlast : '/' ∉ (lastPiece '/' r ++ ".proto").toList := by
      simpa using notMem_lastPiece '/' r
    have hname : lastPiece '/' f.name = lastPiece '/' r ++ ".proto" := by
      rw [hr]
      nth_rewrite 1 [← folderText_cutLast r]
      rw [String.append_assoc, lastPiece_folderText hlast]
    rw [hname, hr, dropTail_append, dropTail_append]
  · have hne : ∀ r, f.name ≠ r ++ ".proto" := not_exists.1 hproto
    rw [dropTail_of_forall_ne hne]
    refine dropTail_of_forall_ne fun r hr => ?_
    refine hne (folderText ((cutLast '/' f.name).map Prod.fst) ++ r) ?_
    rw [String.append_assoc, ← hr, folderText_cutLast]

/-- The directory in which the generated file of `f` is placed, if its path has one. -/
def Options.folder? (o : Options) (f : File) : Option String :=
  match o.paths, o.goImportPath f with
  | .importPath, some path => some path
  | _, _ => (cutLast '/' (dropTail ".proto" f.name)).map Prod.fst

theorem outputName_eq (o : Options) (f : File) :
    o.outputName f = folderText (o.folder? f) ++ f.stem ++ ".cobra.pb.go" := by
  rw [f.stem_eq]
  unfold Options.outputName Options.folder?
  dsimp only
  cases o.paths with
  | importPath =>
    cases o.goImportPath f with
    | some path => rfl
    | none => rw [folderText_cutLast]
  | sourceRelative => rw [folderText_cutLast]

theorem notMem_stem (f : File) : '/' ∉ f.stem.toList := by
  rw [f.stem_eq]
  exact notMem_lastPiece '/' _

/-- Two files are generated at one path exactly if they have one directory and one stem. -/
theorem outputName_eq_iff (o : Options) (f g : File) :
    o.outputName f = o.outputName g ↔ o.folder? f = o.folder? g ∧ f.stem = g.stem := by
  rw [outputName_eq, outputName_eq, String.append_left_inj,
    folderText_append_inj (notMem_stem f) (notMem_stem g)]

/-! ## All generated files -/

/-- The file that was generated for a target, if one was. -/
def Outcome.generated? (r : Outcome) : Option GeneratedFile :=
  match r.result with
  | .ok g => g
  | .error _ => none

/-- Whether a file is generated for `f`. -/
def Proto.File.isGenerated (f : File) : Bool :=
  f.hasServices && f.faults.isEmpty

/-- The files among those at hand for which the targets ask and for which one is generated. -/
def generatingFiles (files : List File) (targets : List String) : List File :=
  (targets.filterMap (fileNamed? files)).filter File.isGenerated

theorem outputName_of_buildFile {f : File} {imports : ImportMap} {o : Options} {go : GoFile}
    (h : buildFile f imports o = .ok (some go)) : go.outputName = o.outputName f := by
  unfold buildFile at h
  split at h
  · obtain ⟨built, -, h⟩ := bind_eq_ok_iff.1 h
    obtain rfl := Option.some.inj (Except.ok.inj h)
    rfl
  · cases h

/-- The file that is generated for a target is placed where the options say. -/
theorem name_generateTarget (files : List File) (o : Options) (target : String) :
    (generateTarget files o target).generated?.map GeneratedFile.name =
      ((fileNamed? files target).filter File.isGenerated).map o.outputName := by
  rw [generateTarget, Outcome.generated?]
  cases fileNamed? files target with
  | none => rfl
  | some f =>
    have hgenerated : f.isGenerated ↔ ∃ go, buildFile f (.ofFiles files o) o = .ok (some go) := by
      rw [exists_goFile_iff, ← File.faults_eq_nil_iff, File.isGenerated, File.hasServices]
      simp
    dsimp only
    rw [generateFile]
    cases hbuilt : buildFile f (.ofFiles files o) o with
    | error e =>
      have hnot : f.isGenerated = false := by simpa [hbuilt] using hgenerated
      simp [Option.filter, hnot, Except.map]
    | ok built =>
      cases built with
      | none =>
        have hnot : f.isGenerated = false := by simpa [hbuilt] using hgenerated
        simp [Option.filter, hnot, Except.map]
      | some go =>
        have hgo : f.isGenerated := hgenerated.2 ⟨go, hbuilt⟩
        simp [Option.filter, hgo, Except.map, GoFile.written, outputName_of_buildFile hbuilt]

theorem names_generateFiles (files : List File) (targets : List String) (o : Options) :
    ((generateFiles files targets o).filterMap Outcome.generated?).map GeneratedFile.name
      = (generatingFiles files targets).map o.outputName := by
  rw [generateFiles, generatingFiles, List.filterMap_map, List.map_filterMap, List.filter_filterMap,
    List.map_filterMap]
  exact List.filterMap_congr fun target _ => name_generateTarget files o target

/-- The files that are generated for the targets have different paths exactly if no two of the files
that they are generated for have one directory and one stem. -/
theorem nodup_outputNames_iff (files : List File) (targets : List String) (o : Options) :
    (((generateFiles files targets o).filterMap Outcome.generated?).map GeneratedFile.name).Nodup ↔
      (generatingFiles files targets).Pairwise fun f g =>
        ¬(o.folder? f = o.folder? g ∧ f.stem = g.stem) := by
  rw [names_generateFiles, List.Nodup, List.pairwise_map]
  simp only [ne_eq, outputName_eq_iff]

/-- Two files of one Go package whose paths differ in their directories only. -/
example : ((generateFiles
      [{ name := "a/x.proto", goPackage := some "example.com/x", services := [{ name := "A" }] },
        { name := "b/x.proto", goPackage := some "example.com/x", services := [{ name := "B" }] }]
      ["a/x.proto", "b/x.proto"] {}).filterMap Outcome.generated?).map GeneratedFile.name
    = ["example.com/x/x.cobra.pb.go", "example.com/x/x.cobra.pb.go"] := by
  decide +kernel

/-! ## Beside the `.proto` files -/

theorem name_of_fileNamed? {files : List File} {target : String} {f : File}
    (h : fileNamed? files target = some f) : f.name = target := by
  simpa using List.find?_some h

theorem exists_target_of_mem_generatingFiles {files : List File} {targets : List String} {f : File}
    (h : f ∈ generatingFiles files targets) : f.name ∈ targets := by
  obtain ⟨target, ht, hf⟩ := List.mem_filterMap.1 (List.mem_filter.1 h).1
  exact name_of_fileNamed? hf ▸ ht

theorem sublist_names_fileNamed? (files : List File) :
    ∀ targets : List String,
      ((targets.filterMap (fileNamed? files)).map File.name).Sublist targets
  | [] => .slnil
  | target :: targets => by
    have ih := sublist_names_fileNamed? files targets
    cases h : fileNamed? files target with
    | none =>
      rw [List.filterMap_cons_none h]
      exact ih.cons target
    | some f =>
      rw [List.filterMap_cons_some h, List.map_cons, name_of_fileNamed? h]
      exact ih.cons_cons target

theorem nodup_names_generatingFiles {files : List File} {targets : List String}
    (h : targets.Nodup) : ((generatingFiles files targets).map File.name).Nodup :=
  (h.sublist (sublist_names_fileNamed? files targets)).sublist (List.filter_sublist.map _)

theorem folderText_stem_of_sourceRelative {o : Options} (ho : o.paths = .sourceRelative)
    (f : File) : folderText (o.folder? f) ++ f.stem = dropTail ".proto" f.name := by
  rw [f.stem_eq, Options.folder?, ho]
  exact folderText_cutLast _

/-- Generated files that are placed beside the `.proto` files have different paths, as long as all
of these have the same ending. -/
theorem nodup_outputNames_of_sourceRelative {files : List File} {targets : List String}
    {o : Options} (ho : o.paths = .sourceRelative) (htargets : targets.Nodup)
    (hproto : ∀ t ∈ targets, ∃ s, t = s ++ ".proto") :
    (((generateFiles files targets o).filterMap Outcome.generated?).map GeneratedFile.name).Nodup := by
  rw [nodup_outputNames_iff]
  have hnames : ((generatingFiles files targets).map File.name).Nodup :=
    nodup_names_generatingFiles htargets
  rw [List.Nodup, List.pairwise_map] at hnames
  refine hnames.imp_of_mem fun {f g} hf hg hne hsame => hne ?_
  obtain ⟨s, hs⟩ := hproto _ (exists_target_of_mem_generatingFiles hf)
  obtain ⟨s', hs'⟩ := hproto _ (exists_target_of_mem_generatingFiles hg)
  have hbare : dropTail ".proto" f.name = dropTail ".proto" g.name := by
    rw [← folderText_stem_of_sourceRelative ho, ← folderText_stem_of_sourceRelative ho, hsame.1,
      hsame.2]
  rw [hs, hs', dropTail_append, dropTail_append] at hbare
  rw [hs, hs', hbare]

end ServiceCli
