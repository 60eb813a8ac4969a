import ServiceCli.Load.Loader
import ServiceCli.Proofs.Result

/-!
# What a step in loading does to the loader

To load a schema is to note its place, read it, load its imports, and add its files and names
(`run_loadWithin`). `Kept` lists what has to be shown of a relation between loaders, one law for
each thing that can happen, so that it relates the loaders before and after any load, also one
that fails (`Kept.keeps_loadWithin`). The relation may depend on the path that is loaded: what a
loaded schema imports is then told apart from what was loaded before.
-/

namespace ServiceCli.Load

open Proto

/-! ## Running steps -/

/-- Two steps succeed together exactly if both do. -/
theorem run_bind_ok_iff {α β : Type} {x : Loading α} {f : α → Loading β} {l n : Loader} {b : β} :
    (x >>= f).run.run l = (.ok b, n) ↔
      ∃ a m, x.run.run l = (.ok a, m) ∧ (f a).run.run m = (.ok b, n) := by
  rw [run_bind]
  rcases x.run.run l with ⟨e | a, m⟩
  · constructor
    · intro h
      cases h
    · rintro ⟨a, m', h, -⟩
      cases h
  · constructor
    · intro h
      exact ⟨a, m, rfl, h⟩
    · rintro ⟨a', m', h, hf⟩
      cases h
      exact hf

/-- What each of some steps does if it succeeds, all of them do. -/
theorem of_forM_ok {α : Type} {R : Loader → Loader → Prop} (hr : ∀ l, R l l)
    (ht : ∀ l m n, R l m → R m n → R l n) {f : α → Loading Unit} :
    ∀ {as : List α} {l n : Loader},
      (∀ a ∈ as, ∀ l m, (f a).run.run l = (.ok (), m) → R l m) →
      (as.forM f).run.run l = (.ok (), n) → R l n
  | [], l, n, _, h => by
    obtain rfl : l = n := (Prod.mk.inj h).2
    exact hr l
  | a :: as, l, n, hf, h => by
    obtain ⟨⟨⟩, m, ha, has⟩ := run_bind_ok_iff.1 h
    exact ht _ _ _ (hf a List.mem_cons_self _ _ ha)
      (of_forM_ok hr ht (fun b hb => hf b (List.mem_cons_of_mem _ hb)) has)

theorem run_addFile (f : File) (l : Loader) :
    (addFile f).run.run l =
      match l.files.find? fun g => g.name = f.name with
      | some g => if g = f then (.ok (), l) else (.error (.conflictingFile f.name), l)
      | none => (.ok (), { l with files := l.files ++ [f] }) := by
  have hget : (get : Loading Loader).run.run l = (.ok l, l) := rfl
  rw [addFile, run_bind, hget]
  dsimp only
  cases l.files.find? fun g => g.name = f.name with
  | none => rfl
  | some g =>
    dsimp only
    split <;> rfl

theorem loaded_addFile (f : File) (l : Loader) :
    ((addFile f).run.run l).2.loaded = l.loaded := by
  rw [run_addFile]
  split
  · split <;> rfl
  · rfl

theorem loaded_forM_addFile :
    ∀ (fs : List File) (l : Loader), ((fs.forM addFile).run.run l).2.loaded = l.loaded
  | [], l => rfl
  | f :: fs, l => by
    have hf := loaded_addFile f l
    have hstep : ((f :: fs).forM addFile : Loading Unit) = addFile f >>= fun _ => fs.forM addFile :=
      rfl
    rw [hstep, run_bind]
    rcases ha : (addFile f).run.run l with ⟨e | ⟨⟩, m⟩
    · rwa [ha] at hf
    · rw [ha] at hf
      exact (loaded_forM_addFile fs m).trans hf

theorem loaded_of_forM_addFile {fs : List File} {l n : Loader}
    (h : (fs.forM addFile).run.run l = (.ok (), n)) : n.loaded = l.loaded := by
  have hloaded := loaded_forM_addFile fs l
  rwa [h] at hloaded

/-- Files that are added without a conflict are there then, and no others are new. -/
theorem mem_files_of_forM_addFile {n : Loader} :
    ∀ {fs : List File} {l : Loader}, (fs.forM addFile).run.run l = (.ok (), n) →
      ∀ f, f ∈ n.files ↔ f ∈ l.files ∨ f ∈ fs
  | [], l, h, f => by
    obtain rfl : l = n := (Prod.mk.inj h).2
    simp
  | g :: fs, l, h, f => by
    obtain ⟨⟨⟩, m, hg, hfs⟩ := run_bind_ok_iff.1 h
    rw [mem_files_of_forM_addFile hfs f, List.mem_cons, ← or_assoc]
    refine or_congr_left ?_
    rw [run_addFile] at hg
    split at hg
    · next g' hfind =>
      split at hg
      · next heq =>
        -- The file is there already.
        obtain rfl : l = m := (Prod.mk.inj hg).2
        have hmem : g ∈ l.files := heq ▸ List.mem_of_find?_eq_some hfind
        constructor
        · exact Or.inl
        · rintro (hf | rfl)
          · exact hf
          · exact hmem
      · cases hg
    · obtain rfl := (Prod.mk.inj hg).2
      simp

theorem run_addTarget (name : String) (l : Loader) :
    (addTarget name).run.run l =
      (.ok (), if name ∈ l.targets then l else { l with targets := l.targets ++ [name] }) := rfl

/-- Loads an import of the schema at `path`. -/
def loadImport (s : Shelf) (room : Nat) (path imported : String) : Loading Unit := do
  let found ← ExceptT.mk (pure (s.findImport path imported))
  loadWithin s room false found.path

theorem run_loadImport (s : Shelf) (room : Nat) (path imported : String) (l : Loader) :
    (loadImport s room path imported).run.run l =
      match s.findImport path imported with
      | .error e => (.error e, l)
      | .ok found => (loadWithin s room false found.path).run.run l := by
  rw [loadImport, run_bind]
  cases s.findImport path imported <;> rfl

/-- An import is loaded if it is found and the schema there is loaded. -/
theorem run_loadImport_ok {s : Shelf} {room : Nat} {path imported : String} {l n : Loader}
    (h : (loadImport s room path imported).run.run l = (.ok (), n)) :
    ∃ found, s.findImport path imported = .ok found ∧
      (loadWithin s room false found.path).run.run l = (.ok (), n) := by
  rw [run_loadImport] at h
  split at h
  · cases h
  · next found hfound => exact ⟨found, hfound, h⟩

/-- What is done with a schema that was read. -/
def addSchema (s : Shelf) (room : Nat) (isTarget : Bool) (path : String) (schema : Schema)
    (targets : List String) : Loading Unit := do
  schema.imports.forM (loadImport s room path)
  schema.files.forM addFile
  if isTarget then targets.forM addTarget

/-- One level of loading. -/
theorem run_loadWithin (s : Shelf) (room : Nat) (isTarget : Bool) (path : String) (l : Loader) :
    (loadWithin s (room + 1) isTarget path).run.run l =
      match s.disk.locate path with
      | .error f => (.error (.unreadable path f), l)
      | .ok place =>
        if place ∈ l.loaded then (.ok (), l)
        else
          match s.read path with
          | .error e => (.error e, { l with loaded := place :: l.loaded })
          | .ok (schema, targets) =>
            (addSchema s room isTarget path schema targets).run.run
              { l with loaded := place :: l.loaded } := by
  rw [loadWithin]
  cases s.disk.locate path with
  | error f => rfl
  | ok place =>
    have hget : (get : Loading Loader).run.run l = (.ok l, l) := rfl
    have hplace : (ExceptT.mk (pure (Except.mapError (LoadError.unreadable path)
        (Except.ok place : Except Fault Location))) : Loading Location).run.run l
        = (.ok place, l) := rfl
    rw [run_bind, hplace]
    dsimp only
    rw [run_bind, hget]
    dsimp only
    split
    · rfl
    · rw [run_bind]
      cases s.read path <;> rfl

/-- How a load succeeds: the schema was loaded before, or it is read and added. -/
theorem run_loadWithin_ok {s : Shelf} {room : Nat} {isTarget : Bool} {path : String}
    {l n : Loader} (h : (loadWithin s (room + 1) isTarget path).run.run l = (.ok (), n)) :
    ∃ place, s.disk.locate path = .ok place ∧
      ((place ∈ l.loaded ∧ n = l) ∨
        place ∉ l.loaded ∧ ∃ schema targets, s.read path = .ok (schema, targets) ∧
          (addSchema s room isTarget path schema targets).run.run
            { l with loaded := place :: l.loaded } = (.ok (), n)) := by
  rw [run_loadWithin] at h
  cases hp : s.disk.locate path with
  | error f =>
    rw [hp] at h
    cases h
  | ok place =>
    rw [hp] at h
    dsimp only at h
    refine ⟨place, rfl, ?_⟩
    split at h
    · next hin =>
      cases h
      exact Or.inl ⟨hin, rfl⟩
    · next hin =>
      cases hr : s.read path with
      | error e =>
        rw [hr] at h
        cases h
      | ok r =>
        obtain ⟨schema, targets⟩ := r
        rw [hr] at h
        exact Or.inr ⟨hin, schema, targets, rfl, h⟩

/-- To add names adds exactly these. -/
theorem run_forM_addTarget :
    ∀ (names : List String) (l : Loader), ∃ n, (names.forM addTarget).run.run l = (.ok (), n) ∧
      n.loaded = l.loaded ∧ n.files = l.files ∧
      ∀ name, name ∈ n.targets ↔ name ∈ l.targets ∨ name ∈ names
  | [], l => ⟨l, rfl, rfl, rfl, by simp⟩
  | t :: names, l => by
    obtain ⟨n, hrun, hloaded, hfiles, hmem⟩ := run_forM_addTarget names
      (if t ∈ l.targets then l else { l with targets := l.targets ++ [t] })
    refine ⟨n, ?_, ?_, ?_, ?_⟩
    · have hstep : ((t :: names).forM addTarget : Loading Unit)
          = addTarget t >>= fun _ => names.forM addTarget := rfl
      rw [hstep, run_bind, run_addTarget]
      exact hrun
    · rw [hloaded]
      split <;> rfl
    · rw [hfiles]
      split <;> rfl
    · intro name
      rw [hmem, List.mem_cons]
      split
      · next ht =>
        constructor
        · rintro (h | h)
          · exact Or.inl h
          · exact Or.inr (Or.inr h)
        · rintro (h | rfl | h)
          · exact Or.inl h
          · exact Or.inl ht
          · exact Or.inr h
      · simp [or_assoc]

/-- How a schema is added: its imports, its files, and its names if it is given. -/
theorem run_addSchema_ok {s : Shelf} {room : Nat} {isTarget : Bool} {path : String}
    {schema : Schema} {names : List String} {l n : Loader}
    (h : (addSchema s room isTarget path schema names).run.run l = (.ok (), n)) :
    ∃ m k, (schema.imports.forM (loadImport s room path)).run.run l = (.ok (), m) ∧
      (schema.files.forM addFile).run.run m = (.ok (), k) ∧ n.loaded = k.loaded ∧
      n.files = k.files ∧
      ∀ name, name ∈ n.targets ↔ name ∈ k.targets ∨ isTarget ∧ name ∈ names := by
  obtain ⟨⟨⟩, m, himports, h⟩ := run_bind_ok_iff.1 h
  obtain ⟨⟨⟩, k, hfiles, hnames⟩ := run_bind_ok_iff.1 h
  refine ⟨m, k, himports, hfiles, ?_⟩
  split at hnames
  · next ht =>
    obtain ⟨n', hrun, hloaded, hsame, hmem⟩ := run_forM_addTarget names k
    obtain rfl : n' = n := (Prod.mk.inj (hrun.symm.trans hnames)).2
    exact ⟨hloaded, hsame, by simpa [ht] using hmem⟩
  · next ht =>
    obtain rfl : k = n := (Prod.mk.inj hnames).2
    exact ⟨rfl, rfl, by simp [ht]⟩

/-! ## Relations that every load keeps -/

/-- The loader after the step is related to the one before, whether the step fails or not. -/
def Keeps (R : Loader → Loader → Prop) {α : Type} (x : Loading α) : Prop :=
  ∀ l, R l (x.run.run l).2

section Keeps

variable {R : Loader → Loader → Prop}

theorem Keeps.bind {α β : Type} (ht : ∀ l m n, R l m → R m n → R l n) {x : Loading α}
    {f : α → Loading β} (hx : Keeps R x) (hf : ∀ a, Keeps R (f a)) : Keeps R (x >>= f) := by
  intro l
  have hl := hx l
  rw [run_bind]
  rcases hr : x.run.run l with ⟨e | a, m⟩
  · rwa [hr] at hl
  · rw [hr] at hl
    exact ht _ _ _ hl (hf a m)

theorem Keeps.forM {α : Type} (hr : ∀ l, R l l) (ht : ∀ l m n, R l m → R m n → R l n)
    {f : α → Loading Unit} :
    ∀ {as : List α}, (∀ a ∈ as, Keeps R (f a)) → Keeps R (as.forM f)
  | [], _ => hr
  | a :: as, h => by
    have hrest : Keeps R (as.forM f) := Keeps.forM hr ht fun b hb => h b (List.mem_cons_of_mem _ hb)
    exact Keeps.bind ht (h a List.mem_cons_self) fun _ => hrest

end Keeps

/-- The laws of a relation between the loaders before and after what is loaded from a path. -/
structure Kept (s : Shelf) (R : String → Loader → Loader → Prop) : Prop where
  refl : ∀ path l, R path l l
  trans : ∀ path l m n, R path l m → R path m n → R path l n
  /-- The place of the path is noted, which is new. -/
  note : ∀ {path place} (l : Loader), s.disk.locate path = .ok place → place ∉ l.loaded →
    R path l { l with loaded := place :: l.loaded }
  /-- An import is loaded. -/
  imported : ∀ {path schema targets i found l m}, s.read path = .ok (schema, targets) →
    i ∈ schema.imports → s.findImport path i = .ok found → R found.path l m → R path l m
  /-- A file is added whose name is new. -/
  file : ∀ {path} {l : Loader} {f : File}, (l.files.find? fun g => g.name = f.name) = none →
    R path l { l with files := l.files ++ [f] }

namespace Kept

variable {s : Shelf} {R : String → Loader → Loader → Prop}

theorem keeps_addFile (h : Kept s R) (path : String) (f : File) : Keeps (R path) (addFile f) := by
  intro l
  rw [run_addFile]
  split
  · split <;> exact h.refl path l
  · next hn => exact h.file hn

theorem keeps_files (h : Kept s R) (path : String) (fs : List File) :
    Keeps (R path) (fs.forM addFile) :=
  Keeps.forM (h.refl path) (h.trans path) fun f _ => h.keeps_addFile path f

theorem keeps_imports (h : Kept s R) {room : Nat}
    (hload : ∀ path, Keeps (R path) (loadWithin s room false path)) {path : String}
    {schema : Schema} {names : List String} (hr : s.read path = .ok (schema, names)) :
    Keeps (R path) (schema.imports.forM (loadImport s room path)) := by
  refine Keeps.forM (h.refl path) (h.trans path) fun i hi l => ?_
  rw [run_loadImport]
  cases hf : s.findImport path i with
  | error e => exact h.refl path l
  | ok found => exact h.imported hr hi hf (hload found.path l)

theorem of_addSchema_ok (h : Kept s R) {room : Nat} {path : String} {schema : Schema}
    {names : List String} {l m n : Loader} (hr : s.read path = .ok (schema, names))
    (hload : ∀ path, Keeps (R path) (loadWithin s room false path))
    (himports : (schema.imports.forM (loadImport s room path)).run.run l = (.ok (), m))
    (hfiles : (schema.files.forM addFile).run.run m = (.ok (), n)) : R path l n := by
  have hm := h.keeps_imports hload hr l
  have hn := h.keeps_files path schema.files m
  rw [himports] at hm
  rw [hfiles] at hn
  exact h.trans path _ _ _ hm hn

/-- A load keeps the relation. Only one that adds names to generate has to show so for these, which
it adds when the files of the schema are there. -/
theorem keeps_loadWithin (h : Kept s R) :
    ∀ (room : Nat) (isTarget : Bool) (path : String),
      (isTarget → ∀ schema names l, s.read path = .ok (schema, names) → schema.files ⊆ l.files →
        R path l ((names.forM addTarget).run.run l).2) →
      Keeps (R path) (loadWithin s room isTarget path)
  | 0, _, path, _ => h.refl path
  | room + 1, isTarget, path, ht => by
    intro l
    rw [run_loadWithin]
    cases hp : s.disk.locate path with
    | error f => exact h.refl path l
    | ok place =>
      dsimp only
      split
      · exact h.refl path l
      · next hnew =>
        cases hr : s.read path with
        | error e => exact h.note l hp hnew
        | ok r =>
          obtain ⟨schema, names⟩ := r
          refine h.trans path _ _ _ (h.note l hp hnew) ?_
          have himports := h.keeps_imports
            (fun p => keeps_loadWithin h room false p fun hn => by cases hn) hr
            { l with loaded := place :: l.loaded }
          dsimp only
          rw [addSchema, run_bind]
          rcases hi : (schema.imports.forM (loadImport s room path)).run.run
            { l with loaded := place :: l.loaded } with ⟨e | ⟨⟩, m⟩
          · rwa [hi] at himports
          · rw [hi] at himports
            refine h.trans path _ _ _ himports ?_
            have hfiles := h.keeps_files path schema.files m
            dsimp only
            rw [run_bind]
            rcases hf : (schema.files.forM addFile).run.run m with ⟨e | ⟨⟩, k⟩
            · rwa [hf] at hfiles
            · rw [hf] at hfiles
              refine h.trans path _ _ _ hfiles ?_
              have hsub : schema.files ⊆ k.files :=
                fun f hmem => (mem_files_of_forM_addFile hf f).2 (Or.inr hmem)
              dsimp only
              split
              · next hT => exact ht hT schema names k hr hsub
              · exact h.refl path k

end Kept

end ServiceCli.Load
