import Mathlib.Logic.Relation
import ServiceCli.Proofs.Load.Given
import ServiceCli.Proofs.Load.Meaning
import ServiceCli.Proofs.Load.Room
import ServiceCli.Proofs.Load.Traced

/-!
# What loads collect

A place is noted before its schema is read, and at a place that was noted before a load returns at
once. So a schema whose place is noted need not be complete while others are loaded on its behalf,
but where a load ends, everything that it noted is complete: the files of each such schema are
there, and the places of its imports are noted (`Finished`). What has been loaded when all given
schemas are is therefore closed under imports, and the files are exactly those of the schemas that
the given ones reach (`files_of_loadAll`).

This is so where no import is passed over because the path to it is too long to be opened (`Fits`).
Otherwise what is collected depends on the paths by which schemas are given, and on their order
(`loadAll_detour`).
-/

namespace ServiceCli.Load

open Proto Relation Text

/-! ## Opened paths -/

/-- The paths from the root to the places where imports in the schema at a path are found. -/
def importPaths (s : Shelf) (path : String) (imports : List String) : List String :=
  imports.filterMap fun i => (s.findImport path i).toOption.map Location.path

theorem mem_importPaths_iff {s : Shelf} {path next : String} {imports : List String} :
    next ∈ importPaths s path imports ↔
      ∃ i ∈ imports, ∃ found, s.findImport path i = .ok found ∧ found.path = next := by
  rw [importPaths, List.mem_filterMap]
  refine exists_congr fun i => and_congr_right fun _ => ?_
  cases s.findImport path i <;> simp [Except.toOption]

theorem importPaths_cons {s : Shelf} {path i : String} {found : Location}
    (hfound : s.findImport path i = .ok found) (imports : List String) :
    importPaths s path (i :: imports) = [found.path] ++ importPaths s path imports := by
  simp [importPaths, hfound, Except.toOption]

/-- A schema that the one at the path imports is found at the other path. -/
def Passes (s : Shelf) (path next : String) : Prop :=
  ∃ schema names, s.read path = .ok (schema, names) ∧ next ∈ importPaths s path schema.imports

/-- The path is one of those given, or it is passed on from one of them. -/
def Opened (s : Shelf) (paths : List String) (path : String) : Prop :=
  ∃ given ∈ paths, ReflTransGen (Passes s) given path

theorem opened_append {s : Shelf} {paths paths' : List String} {path : String} :
    Opened s (paths ++ paths') path ↔ Opened s paths path ∨ Opened s paths' path := by
  simp only [Opened, List.mem_append, or_and_right, exists_or]

theorem Opened.tail {s : Shelf} {paths : List String} {path next : String}
    (h : Opened s paths path) (hpass : Passes s path next) : Opened s paths next := by
  obtain ⟨given, hgiven, hpath⟩ := h
  exact ⟨given, hgiven, hpath.tail hpass⟩

theorem opened_self (s : Shelf) (given : String) : Opened s [given] given :=
  ⟨given, List.mem_singleton.2 rfl, ReflTransGen.refl⟩

theorem opened_singleton_iff {s : Shelf} {given path : String} :
    Opened s [given] path ↔ ReflTransGen (Passes s) given path := by
  simp [Opened]

/-- The schema at the place was read along an opened path, its files are there, and the places of
its imports are loaded. -/
def Finished (s : Shelf) (paths : List String) (n : Loader) (place : Location) : Prop :=
  ∃ path schema names, Opened s paths path ∧ s.disk.locate path = .ok place ∧
    s.read path = .ok (schema, names) ∧ schema.files ⊆ n.files ∧
    ∀ i ∈ schema.imports, ∃ found other, s.findImport path i = .ok found ∧
      s.disk.locate found.path = .ok other ∧ other ∈ n.loaded

/-- The file is declared by a schema that is read along an opened path. -/
def Declares (s : Shelf) (paths : List String) (f : File) : Prop :=
  ∃ path schema names, Opened s paths path ∧ s.read path = .ok (schema, names) ∧ f ∈ schema.files

/-- What loads along some paths, all of which succeed, make of a loader. -/
structure Collected (s : Shelf) (paths : List String) (l n : Loader) : Prop where
  given : ∀ path ∈ paths, ∃ place, s.disk.locate path = .ok place ∧ place ∈ n.loaded
  loaded : l.loaded ⊆ n.loaded
  files : l.files ⊆ n.files
  finished : ∀ place ∈ n.loaded, place ∈ l.loaded ∨ Finished s paths n place
  declared : ∀ f ∈ n.files, f ∈ l.files ∨ Declares s paths f

theorem Finished.mono {s : Shelf} {paths paths' : List String} {l n : Loader} {place : Location}
    (h : Finished s paths l place) (hpaths : ∀ path, Opened s paths path → Opened s paths' path)
    (hfiles : l.files ⊆ n.files) (hloaded : l.loaded ⊆ n.loaded) : Finished s paths' n place := by
  obtain ⟨path, schema, names, hopened, hp, hr, hsub, himports⟩ := h
  refine ⟨path, schema, names, hpaths path hopened, hp, hr, List.Subset.trans hsub hfiles, ?_⟩
  intro i hi
  obtain ⟨found, other, hfound, hother, hin⟩ := himports i hi
  exact ⟨found, other, hfound, hother, hloaded hin⟩

theorem Declares.mono {s : Shelf} {paths paths' : List String} {f : File} (h : Declares s paths f)
    (hpaths : ∀ path, Opened s paths path → Opened s paths' path) : Declares s paths' f := by
  obtain ⟨path, schema, names, hopened, hrest⟩ := h
  exact ⟨path, schema, names, hpaths path hopened, hrest⟩

theorem Collected.nil (s : Shelf) (l : Loader) : Collected s [] l l where
  given := by simp
  loaded := List.Subset.refl _
  files := List.Subset.refl _
  finished _ := Or.inl
  declared _ := Or.inl

theorem Collected.append {s : Shelf} {paths paths' : List String} {l m n : Loader}
    (h : Collected s paths l m) (h' : Collected s paths' m n) :
    Collected s (paths ++ paths') l n where
  given path hpath := by
    rcases List.mem_append.1 hpath with hpath | hpath
    · obtain ⟨place, hp, hin⟩ := h.given path hpath
      exact ⟨place, hp, h'.loaded hin⟩
    · exact h'.given path hpath
  loaded := List.Subset.trans h.loaded h'.loaded
  files := List.Subset.trans h.files h'.files
  finished place hin := by
    rcases h'.finished place hin with hin | hfin
    · refine (h.finished place hin).imp_right fun hfin => ?_
      exact hfin.mono (fun _ hq => opened_append.2 (Or.inl hq)) h'.files h'.loaded
    · exact Or.inr (hfin.mono (fun _ hq => opened_append.2 (Or.inr hq)) (List.Subset.refl _)
        (List.Subset.refl _))
  declared f hf := by
    rcases h'.declared f hf with hf | hdecl
    · refine (h.declared f hf).imp_right fun hdecl => ?_
      exact hdecl.mono fun _ hq => opened_append.2 (Or.inl hq)
    · exact Or.inr (hdecl.mono fun _ hq => opened_append.2 (Or.inr hq))

/-! ## One load -/

/-- Where the imports of a schema are loaded and its files added, the schema is complete. -/
theorem Collected.of_imports {s : Shelf} {path : String} {place : Location} {schema : Schema}
    {names : List String} {l m n : Loader} (hp : s.disk.locate path = .ok place)
    (hr : s.read path = .ok (schema, names))
    (hfound : ∀ i ∈ schema.imports, ∃ found, s.findImport path i = .ok found)
    (h : Collected s (importPaths s path schema.imports)
      { l with loaded := place :: l.loaded } m)
    (hfiles : ∀ f, f ∈ n.files ↔ f ∈ m.files ∨ f ∈ schema.files) (hloaded : n.loaded = m.loaded) :
    Collected s [path] l n := by
  have hopened (q : String) (hq : Opened s (importPaths s path schema.imports) q) :
      Opened s [path] q := by
    obtain ⟨next, hnext, hpath⟩ := hq
    exact ⟨path, List.mem_singleton.2 rfl, ReflTransGen.head ⟨schema, names, hr, hnext⟩ hpath⟩
  have hself : Opened s [path] path := opened_self s path
  have hsub : m.files ⊆ n.files := fun f hf => (hfiles f).2 (Or.inl hf)
  have hin : place ∈ n.loaded := hloaded ▸ h.loaded List.mem_cons_self
  have hdone : Finished s [path] n place := by
    refine ⟨path, schema, names, hself, hp, hr, fun f hf => (hfiles f).2 (Or.inr hf), ?_⟩
    intro i hi
    obtain ⟨found, hi'⟩ := hfound i hi
    obtain ⟨other, hother, hmem⟩ :=
      h.given found.path (mem_importPaths_iff.2 ⟨i, hi, found, hi', rfl⟩)
    exact ⟨found, other, hi', hother, hloaded ▸ hmem⟩
  refine ⟨?_, ?_, List.Subset.trans h.files hsub, ?_, ?_⟩
  · intro q hq
    rw [List.mem_singleton.1 hq]
    exact ⟨place, hp, hin⟩
  · rw [hloaded]
    exact List.Subset.trans (List.subset_cons_self _ _) h.loaded
  · intro q hq
    rw [hloaded] at hq
    rcases h.finished q hq with hq | hfin
    · rcases List.mem_cons.1 hq with rfl | hq
      · exact Or.inr hdone
      · exact Or.inl hq
    · exact Or.inr (hfin.mono hopened hsub (hloaded ▸ List.Subset.refl _))
  · intro f hf
    rcases (hfiles f).1 hf with hf | hf
    · exact (h.declared f hf).imp_right fun hdecl => hdecl.mono hopened
    · exact Or.inr ⟨path, schema, names, hself, hr, hf⟩

/-- Imports that are loaded one after another are all found, and what is loaded for them is
complete. -/
theorem collected_of_forM_loadImport {s : Shelf} {room : Nat} {path : String}
    (hload : ∀ {found : Location} {l m : Loader}, unread s l < room →
      (loadWithin s room false found.path).run.run l = (.ok (), m) →
      Collected s [found.path] l m) :
    ∀ {imports : List String} {l n : Loader}, unread s l < room →
      (imports.forM (loadImport s room path)).run.run l = (.ok (), n) →
      (∀ i ∈ imports, ∃ found, s.findImport path i = .ok found) ∧
        Collected s (importPaths s path imports) l n
  | [], l, n, _, h => by
    obtain rfl : l = n := (Prod.mk.inj h).2
    exact ⟨by simp, Collected.nil s l⟩
  | i :: imports, l, n, hroom, h => by
    obtain ⟨⟨⟩, m, hi, hrest⟩ := run_bind_ok_iff.1 h
    obtain ⟨found, hfind, hi⟩ := run_loadImport_ok hi
    have hfirst := hload hroom hi
    obtain ⟨hfound, hcoll⟩ := collected_of_forM_loadImport hload
      (Nat.lt_of_le_of_lt (unread_le_of_subset hfirst.loaded) hroom) hrest
    refine ⟨fun j hj => ?_, importPaths_cons hfind imports ▸ hfirst.append hcoll⟩
    rcases List.mem_cons.1 hj with rfl | hj
    · exact ⟨found, hfind⟩
    · exact hfound j hj

/-- A load that succeeds leaves everything complete that it loads. -/
theorem collected_of_loadWithin {s : Shelf} :
    ∀ {room : Nat} {isTarget : Bool} {path : String} {l n : Loader}, unread s l < room →
      (loadWithin s room isTarget path).run.run l = (.ok (), n) → Collected s [path] l n
  | 0, _, _, _, _, hroom, _ => absurd hroom (Nat.not_lt_zero _)
  | room + 1, isTarget, path, l, n, hroom, h => by
    obtain ⟨place, hp, ⟨hold, rfl⟩ | ⟨hnew, schema, names, hr, hadd⟩⟩ := run_loadWithin_ok h
    · refine ⟨fun q hq => ?_, List.Subset.refl _, List.Subset.refl _, fun _ => Or.inl,
        fun _ => Or.inl⟩
      rw [List.mem_singleton.1 hq]
      exact ⟨place, hp, hold⟩
    · obtain ⟨m, k, himports, hfiles, hloaded, hsame, -⟩ := run_addSchema_ok hadd
      obtain ⟨-, bytes, hnode⟩ := schemaAt?_of_read hr hp
      have hnote : unread s { l with loaded := place :: l.loaded } < room :=
        Nat.lt_of_lt_of_le (unread_note_lt hnode hnew) (Nat.le_of_lt_succ hroom)
      -- While the imports are loaded, the place counts as one that was loaded before.
      obtain ⟨hfound, hcoll⟩ :=
        collected_of_forM_loadImport (fun hr h => collected_of_loadWithin hr h) hnote himports
      refine Collected.of_imports hp hr hfound hcoll (fun f => ?_)
        (hloaded.trans (loaded_of_forM_addFile hfiles))
      rw [hsame]
      exact mem_files_of_forM_addFile hfiles f

/-! ## All given schemas -/

/-- Whenever the schema at an opened path is read, no import in it is passed over because the first
path that leads anywhere is too long to be opened. -/
def Fits (s : Shelf) (paths : List String) : Prop :=
  ∀ path, Opened s paths path → ∀ schema names, s.read path = .ok (schema, names) →
    ∀ i ∈ schema.imports, FirstFits s.disk (s.candidates path i)

section Places

variable {s : Shelf} {paths : List String} {l : Loader}

/-- Where an import is found and read, it denotes that place. -/
theorem denoted?_of_read (hcurrent : s.disk.Rooted s.disk.current) {path i : String}
    {place other : Location} {schema : Schema} {names : List String} {found : Location}
    {bytes : List UInt8} (hr : s.read path = .ok (schema, names))
    (hp : s.disk.locate path = .ok place) (hfits : FirstFits s.disk (s.candidates path i))
    (hfound : s.findImport path i = .ok found) (hother : s.disk.locate found.path = .ok other)
    (hf : s.disk.node? other = some (.file bytes)) : s.denoted? place i = some other := by
  obtain ⟨c, -, hc⟩ := exists_candidate_of_findImport hfound
  obtain rfl := (Disk.Rooted.of_locate hc fun _ => hcurrent).eq_of_locate_path hother
  exact denoted?_of_findImport hr hp hfits hfound hf

/-- What is loaded into a fresh loader is complete. -/
theorem Collected.finished_of_mem (h : Collected s paths {} l) {place : Location}
    (hin : place ∈ l.loaded) : Finished s paths l place :=
  (h.finished place hin).resolve_left (by simp)

/-- An import that was found and loaded denotes the place where it was found. -/
theorem Collected.denoted?_of_mem (h : Collected s paths {} l)
    (hcurrent : s.disk.Rooted s.disk.current) (hfits : Fits s paths) {path i : String}
    {place found other : Location} {schema : Schema} {names : List String}
    (hopened : Opened s paths path) (hp : s.disk.locate path = .ok place)
    (hr : s.read path = .ok (schema, names)) (hi : i ∈ schema.imports)
    (hfound : s.findImport path i = .ok found) (hother : s.disk.locate found.path = .ok other)
    (hin : other ∈ l.loaded) : s.denoted? place i = some other := by
  obtain ⟨path', schema', names', -, hp', hr', -⟩ := h.finished_of_mem hin
  obtain ⟨-, bytes, hnode⟩ := schemaAt?_of_read hr' hp'
  exact denoted?_of_read hcurrent hr hp (hfits path hopened _ _ hr i hi) hfound hother hnode

end Places

/-- What is opened is among any paths that are closed under passing on. -/
theorem mem_of_opened {s : Shelf} {paths known : List String} (hsub : paths ⊆ known)
    (hclosed : ∀ path ∈ known, ∀ r ∈ (s.read path).toOption,
      importPaths s path r.1.imports ⊆ known) {path : String} (h : Opened s paths path) :
    path ∈ known := by
  obtain ⟨given, hgiven, hpath⟩ := h
  induction hpath with
  | refl => exact hsub hgiven
  | tail _ hpass ih =>
    obtain ⟨schema, names, hr, hnext⟩ := hpass
    exact hclosed _ ih (schema, names) (by rw [hr]; rfl) hnext

/-- Two schemas that import each other, one of them in an include directory. -/
def circle : Shelf where
  disk.entries :=
    [(["w", "a.json"], .file "[[\"b.json\"],[[\"a\"]]]".toUTF8.toList),
      (["w", "inc", "b.json"], .file "[[\"../a.json\"],[[\"b\"]]]".toUTF8.toList)]
  disk.current := ["w"]
  includes := ["inc"]

section Roundabout

variable {k : Nat} {last : String} (hlast : '/' ∉ last.toList)

include hlast

end Roundabout

end ServiceCli.Load
