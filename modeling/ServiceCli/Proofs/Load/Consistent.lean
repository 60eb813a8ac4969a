import Mathlib.Data.List.Nodup
import ServiceCli.Generation
import ServiceCli.Proofs.GoFile.Subcommands
import ServiceCli.Proofs.Load.Place
import ServiceCli.Proofs.Load.Steps

/-!
# What a loader holds after any steps

A load changes the loader while it goes on, and it keeps what was done before a failure. A loader
is consistent if no two of its files have one name, no name is to be generated twice, and each name
to generate is that of one of its files (`Loader.Consistent`). `Advances` says that a step takes
nothing away and keeps the loader consistent. It is shown once for each thing that a load does
(`kept_advances`), and so it holds of every load, wherever it may fail, and of every run of steps
(`consistent_after`).
-/

namespace ServiceCli.Load

open Proto Command

/-! ## Consistent loaders -/

/-- The files have different names, and the names to generate are some of these, each once. -/
structure Loader.Consistent (l : Loader) : Prop where
  names : (l.files.map File.name).Nodup
  targets : l.targets.Nodup
  target_mem : ∀ name ∈ l.targets, name ∈ l.files.map File.name

/-- The step from `l` to `m` takes nothing away, and if `l` is consistent, so is `m`. -/
structure Advances (l m : Loader) : Prop where
  files : l.files <+: m.files
  targets : l.targets <+: m.targets
  loaded : l.loaded ⊆ m.loaded
  consistent : l.Consistent → m.Consistent

theorem consistent_empty : ({} : Loader).Consistent :=
  ⟨List.nodup_nil, List.nodup_nil, by simp⟩

theorem Advances.refl (l : Loader) : Advances l l :=
  ⟨List.prefix_rfl, List.prefix_rfl, List.Subset.refl _, id⟩

theorem Advances.trans {l m n : Loader} (h : Advances l m) (h' : Advances m n) : Advances l n :=
  ⟨h.files.trans h'.files, h.targets.trans h'.targets, List.Subset.trans h.loaded h'.loaded,
    fun hl => h'.consistent (h.consistent hl)⟩

theorem advances_file {l : Loader} {f : File}
    (hnew : (l.files.find? fun g => g.name = f.name) = none) :
    Advances l { l with files := l.files ++ [f] } where
  files := List.prefix_append _ _
  targets := List.prefix_rfl
  loaded := List.Subset.refl _
  consistent h := by
    have hname : f.name ∉ l.files.map File.name := by
      rw [List.find?_eq_none] at hnew
      intro hm
      obtain ⟨g, hg, hn⟩ := List.mem_map.1 hm
      exact hnew g hg (by simpa using hn)
    refine ⟨?_, h.targets, fun name hn => ?_⟩
    · rw [List.map_append]
      refine List.nodup_append.2 ⟨h.names, List.nodup_singleton _, fun a ha b hb => ?_⟩
      rw [List.mem_singleton.1 hb]
      rintro rfl
      exact hname ha
    · rw [List.map_append]
      exact List.mem_append_left _ (h.target_mem name hn)

theorem advances_addTarget {l : Loader} {name : String} (hf : name ∈ l.files.map File.name) :
    Advances l ((addTarget name).run.run l).2 := by
  rw [run_addTarget]
  split
  · exact Advances.refl l
  · next hn =>
    refine ⟨List.prefix_rfl, List.prefix_append _ _, List.Subset.refl _, fun h => ?_⟩
    refine ⟨h.names, ?_, fun t ht => ?_⟩
    · refine List.nodup_append.2 ⟨h.targets, List.nodup_singleton _, fun a ha b hb => ?_⟩
      rw [List.mem_singleton.1 hb]
      rintro rfl
      exact hn ha
    · rcases List.mem_append.1 ht with ht | ht
      · exact h.target_mem t ht
      · rw [List.mem_singleton.1 ht]
        exact hf

/-- Names of files that are there may be added. -/
theorem advances_forM_addTarget :
    ∀ {names : List String} {l : Loader}, (∀ name ∈ names, name ∈ l.files.map File.name) →
      Advances l ((names.forM addTarget).run.run l).2
  | [], l, _ => Advances.refl l
  | name :: names, l, h => by
    have hname := advances_addTarget (h name List.mem_cons_self)
    have hstep : ((name :: names).forM addTarget).run.run l
        = (names.forM addTarget).run.run ((addTarget name).run.run l).2 := by
      rw [run_addTarget]
      rfl
    rw [hstep]
    refine hname.trans (advances_forM_addTarget fun t ht => ?_)
    exact (hname.files.map File.name).subset (h t (List.mem_cons_of_mem _ ht))

/-! ## Loads -/

/-- The names to generate of a schema are those of files that it declares. -/
theorem targets_subset_fileNames (f : SchemaFormat) (schema : Schema) :
    f.targets schema ⊆ schema.fileNames := by
  cases f with
  | yaml => exact List.Subset.refl _
  | json => exact List.Subset.refl _
  | descriptorSet => exact List.filter_subset_self _

theorem kept_advances (s : Shelf) : Kept s fun _ => Advances where
  refl _ := Advances.refl
  trans _ _ _ _ := Advances.trans
  note _ _ _ :=
    ⟨List.prefix_rfl, List.prefix_rfl, List.subset_cons_self _ _, fun h => ⟨h.1, h.2, h.3⟩⟩
  imported _ _ _ h := h
  file hnew := advances_file hnew

/-- A load advances the loader, wherever it ends. -/
theorem advances_load (s : Shelf) (path : String) (l : Loader) :
    Advances l ((load s path).run.run l).2 := by
  refine (kept_advances s).keeps_loadWithin s.room true path
    (fun _ schema names m hr hfiles => ?_) l
  obtain ⟨-, -, -, f, -, -, -, -, -, -, rfl⟩ := exists_file_of_read hr
  refine advances_forM_addTarget fun name hname => ?_
  obtain ⟨g, hg, rfl⟩ := List.mem_map.1 (targets_subset_fileNames f schema hname)
  exact List.mem_map_of_mem (hfiles hg)

/-! ## Runs of steps -/

/-- A step that is taken with a loader. Each load finds the disk as it is then. -/
inductive Action where
  | load (shelf : Shelf) (path : String)
  | add (f : File)

/-- What is done in a step. -/
def Action.run : Action → Loading Unit
  | load shelf path => Load.load shelf path
  | add f => addFile f

/-- The loader after some steps, whether they fail or not. -/
def Loader.after (l : Loader) (actions : List Action) : Loader :=
  actions.foldl (fun l a => (a.run.run.run l).2) l

theorem advances_run (a : Action) (l : Loader) : Advances l (a.run.run.run l).2 := by
  cases a with
  | load shelf path => exact advances_load shelf path l
  | add f =>
    rw [Action.run, run_addFile]
    split
    · split <;> exact Advances.refl l
    · next hnew => exact advances_file hnew

theorem advances_after : ∀ (actions : List Action) (l : Loader), Advances l (l.after actions)
  | [], l => Advances.refl l
  | a :: actions, l => (advances_run a l).trans (advances_after actions _)

/-- A file is refused exactly if there is another one of its name, and then nothing is changed. -/
theorem run_addFile_of_consistent {l : Loader} (h : l.Consistent) (f : File) :
    (addFile f).run.run l = (.error (.conflictingFile f.name), l) ∧
        (∃ g ∈ l.files, g.name = f.name ∧ g ≠ f) ∨
      ((addFile f).run.run l).1 = .ok () ∧ ¬∃ g ∈ l.files, g.name = f.name ∧ g ≠ f := by
  rw [run_addFile]
  cases hfind : l.files.find? fun g => g.name = f.name with
  | none =>
    refine Or.inr ⟨rfl, ?_⟩
    rintro ⟨g, hg, hname, -⟩
    exact List.find?_eq_none.1 hfind g hg (by simpa using hname)
  | some g =>
    have hmem := List.mem_of_find?_eq_some hfind
    have hname : g.name = f.name := by simpa using List.find?_some hfind
    dsimp only
    split
    · next heq =>
      refine Or.inr ⟨rfl, ?_⟩
      rintro ⟨g', hmem', hname', hne⟩
      exact hne ((List.inj_on_of_nodup_map h.names hmem' hmem (hname'.trans hname.symm)).trans heq)
    · next hne => exact Or.inl ⟨rfl, g, hmem, hname, hne⟩

/-- No target of a consistent loader is unknown. -/
theorem result_ne_unknownFile {l : Loader} (h : l.Consistent) {o : Options} {outcome : Outcome}
    (hout : outcome ∈ generateFiles l.files l.targets o) (name : String) :
    outcome.result ≠ .error (.unknownFile name) := by
  obtain ⟨target, ht, rfl⟩ := List.mem_map.1 hout
  obtain ⟨f, hf, hname⟩ := List.mem_map.1 (h.target_mem target ht)
  rw [generateTarget]
  cases hfind : fileNamed? l.files target with
  | none => exact absurd hname (by simpa using List.find?_eq_none.1 hfind f hf)
  | some g =>
    intro hresult
    exact buildFile_ne_unknownFile g _ o name (map_eq_error_iff.1 hresult)

/-- Whatever was loaded and added, and wherever that failed: the files have different names, and the
names to generate are some of these, each once. Any further step leaves the files and the names to
generate as they are and adds others behind them, and it keeps the places. A file is refused exactly
if there is another one of its name, and then nothing is changed. No target is unknown when all are
generated. -/
theorem consistent_after (actions : List Action) :
    let l := Loader.after {} actions
    ((l.files.map File.name).Nodup ∧ l.targets.Nodup ∧
      ∀ name ∈ l.targets, ∃ f ∈ l.files, f.name = name) ∧
    (∀ a : Action, l.files <+: (a.run.run.run l).2.files ∧
      l.targets <+: (a.run.run.run l).2.targets ∧ l.loaded ⊆ (a.run.run.run l).2.loaded) ∧
    (∀ f : File, (((addFile f).run.run l).1 ≠ .ok () ↔ ∃ g ∈ l.files, g.name = f.name ∧ g ≠ f) ∧
      (((addFile f).run.run l).1 ≠ .ok () →
        (addFile f).run.run l = (.error (.conflictingFile f.name), l))) ∧
    ∀ o : Options, ∀ outcome ∈ generateFiles l.files l.targets o,
      ∀ name, outcome.result ≠ .error (.unknownFile name) := by
  intro l
  have h : l.Consistent := (advances_after actions {}).consistent consistent_empty
  refine ⟨⟨h.names, h.targets, fun name hn => ?_⟩, fun a => ?_, fun f => ?_, fun o outcome hout =>
    result_ne_unknownFile h hout⟩
  · exact List.mem_map.1 (h.target_mem name hn)
  · have hstep := advances_run a l
    exact ⟨hstep.files, hstep.targets, hstep.loaded⟩
  · rcases run_addFile_of_consistent h f with ⟨hrun, hother⟩ | ⟨hok, hnone⟩
    · rw [hrun]
      exact ⟨⟨fun _ => hother, fun _ => by simp⟩, fun _ => rfl⟩
    · exact ⟨⟨fun hne => absurd hok hne, fun hother => absurd hother hnone⟩,
        fun hne => absurd hok hne⟩

/-- A schema that declares two different files of one name. -/
def selfConflict : Shelf where
  disk.entries :=
    [(["a.json"], .file
      [91, 91, 93, 44, 91, 91, 34, 120, 34, 93, 44, 91, 34, 120, 34, 44, 34, 112, 34, 93, 93, 93])]

/-- The load fails at the second of the two, and the loader goes on with the first. -/
theorem consistent_after_conflict :
    ((load selfConflict "a.json").run.run {}).1 = .error (.conflictingFile "x") ∧
      Loader.after {} [.load selfConflict "a.json", .add { name := "y" }]
        = ⟨[["a.json"]], [{ name := "x" }, { name := "y" }], []⟩ ∧
      (addFile { name := "y", package := "q" }).run.run
          (Loader.after {} [.load selfConflict "a.json", .add { name := "y" }])
        = (.error (.conflictingFile "y"),
            Loader.after {} [.load selfConflict "a.json", .add { name := "y" }]) := by
  have hafter : Loader.after {} [.load selfConflict "a.json", .add { name := "y" }]
      = ⟨[["a.json"]], [{ name := "x" }, { name := "y" }], []⟩ := by decide +kernel
  obtain ⟨-, -, hadd, -⟩ :=
    consistent_after [.load selfConflict "a.json", .add { name := "y" }]
  obtain ⟨hiff, hsame⟩ := hadd { name := "y", package := "q" }
  refine ⟨by decide +kernel, hafter, hsame (hiff.2 ?_)⟩
  rw [hafter]
  exact ⟨{ name := "y" }, by decide, rfl, by decide⟩

end ServiceCli.Load
