import ServiceCli.Proofs.Load.Place

/-!
# What schemas and imports mean on a shelf

Which schema stands at a place, and which place one of its imports denotes, can be said without the
paths along which schemas are opened: the name of the file tells the format (`Shelf.schemaAt?`), and
an import denotes the first place to which it leads from the directory of the file or from one of
the include directories (`Shelf.denoted?`). Where a schema is read, it is the one at the place
(`schemaAt?_of_read`).

An import is looked for along paths, though, and one that is too long to be opened is passed over,
also if it leads to a file. Where this does not happen, an import is found at the place that it
denotes (`denoted?_of_findImport`).
-/

namespace ServiceCli

open Text

/-- The name of a file is the last name on the path that is this name alone. -/
theorem Path.fileName?_of_fileName? {path name : String} (h : Path.fileName? path = some name) :
    Path.fileName? name = some name := by
  unfold Path.fileName? at h
  split at h
  · cases h
  · next last rest hdrop =>
    split at h
    · cases h
    · next hup =>
      obtain rfl := Option.some.inj h
      have hhere : ¬Path.isHere last := by
        have hhead := List.head_dropWhile_not Path.isHere (l := (pieces '/' path).reverse)
          (by simp [hdrop])
        simpa [hdrop] using hhead
      have hmem : last ∈ pieces '/' path := by
        refine List.mem_reverse.1 ((List.dropWhile_sublist Path.isHere).subset ?_)
        rw [hdrop]
        exact List.mem_cons_self
      rw [Path.fileName?, pieces_of_notMem (notMem_of_mem_pieces hmem), List.reverse_singleton,
        List.dropWhile_cons_of_neg hhere]
      dsimp only
      rw [if_neg hup]

namespace Load

/-! ## Schemas and imports -/

/-- The schema that stands at a place. -/
def Shelf.schemaAt? (s : Shelf) (place : Location) : Option Schema :=
  match s.disk.node? place, place.getLast? with
  | some (.file bytes), some name => (SchemaFormat.ofPath? name).bind fun f => f.schemaOf? bytes
  | _, _ => none

/-- The place that an import in the schema at a place denotes: the first that exists of those to
which it leads from the directory of the schema and from the include directories. -/
def Shelf.denoted? (s : Shelf) (place : Location) (imported : String) : Option Location :=
  (s.disk.locateFrom place.dropLast imported
    :: s.includes.map fun dir => s.disk.locate (Path.join dir imported)).findSome? Except.toOption

/-- The schema at a place imports the one at the other place. -/
def Imports (s : Shelf) (place other : Location) : Prop :=
  ∃ schema, s.schemaAt? place = some schema ∧
    ∃ i ∈ schema.imports, s.denoted? place i = some other

/-- Where a schema is read, it is the one at the place, which is a file. -/
theorem schemaAt?_of_read {s : Shelf} {path : String} {place : Location} {schema : Schema}
    {names : List String} (hr : s.read path = .ok (schema, names))
    (hp : s.disk.locate path = .ok place) :
    s.schemaAt? place = some schema ∧ ∃ bytes, s.disk.node? place = some (.file bytes) := by
  obtain ⟨place', name, bytes, f, hp', hnode, hlast, hf, hname, hs, -⟩ := exists_file_of_read hr
  obtain rfl : place = place' := Except.ok.inj (hp.symm.trans hp')
  have hformat : SchemaFormat.ofPath? name = some f := by
    rw [Path.extension?, hname] at hf
    rw [SchemaFormat.ofPath?, Path.extension?, Path.fileName?_of_fileName? hname]
    exact hf
  refine ⟨?_, bytes, hnode⟩
  rw [Shelf.schemaAt?, hnode, hlast]
  dsimp only
  rw [hformat]
  exact hs

/-! ## Finding imports -/

/-- The first of the paths that leads anywhere is not too long to be opened. -/
def FirstFits (d : Disk) (paths : List String) : Prop :=
  ∀ path ∈ paths.find? fun p => (d.locate p).toOption.isSome,
    path.utf8ByteSize ≤ Disk.maxPathLength

instance (d : Disk) (paths : List String) : Decidable (FirstFits d paths) :=
  inferInstanceAs (Decidable (∀ path ∈ paths.find? fun p => (d.locate p).toOption.isSome, _))

theorem findSome?_reach {d : Disk} :
    ∀ {paths : List String}, FirstFits d paths →
      paths.findSome? (fun p => (d.reach p).toOption)
        = paths.findSome? fun p => (d.locate p).toOption
  | [], _ => rfl
  | p :: paths, h => by
    cases hp : d.locate p with
    | ok l =>
      have hfits := h p (by simp [hp, Except.toOption])
      simp [Disk.reach_eq_locate hfits, hp, Except.toOption]
    | error f =>
      have hreach : (d.reach p).toOption = none := by
        cases hr : d.reach p with
        | error g => rfl
        | ok l =>
          rw [Disk.locate_of_reach hr] at hp
          cases hp
      have hfits : FirstFits d paths := fun path hpath => h path (by
        simpa [hp, Except.toOption] using hpath)
      have hrest := findSome?_reach hfits
      rw [List.findSome?_cons, List.findSome?_cons, hreach, hp]
      exact hrest

theorem findImport_eq_ok_iff {s : Shelf} {path imported : String} {found : Location} :
    s.findImport path imported = .ok found ↔
      (s.candidates path imported).findSome? (fun p => (s.disk.reach p).toOption) = some found := by
  rw [← List.head?_filterMap]
  unfold Shelf.findImport
  split
  · next h => simp [h]
  · next h => simp [h]

/-- An import is found along a path that leads there. -/
theorem exists_candidate_of_findImport {s : Shelf} {path imported : String} {found : Location}
    (h : s.findImport path imported = .ok found) :
    ∃ p ∈ s.candidates path imported, s.disk.locate p = .ok found := by
  obtain ⟨p, hp, hreach⟩ := List.exists_of_findSome?_eq_some (findImport_eq_ok_iff.1 h)
  refine ⟨p, hp, Disk.locate_of_reach ?_⟩
  cases hr : s.disk.reach p with
  | error f =>
    rw [hr] at hreach
    cases hreach
  | ok l =>
    rw [hr] at hreach
    rw [Option.some.inj hreach]

/-- An import without a name leads to no file. -/
theorem ne_empty_of_findImport {s : Shelf} {path imported : String} {found : Location}
    {bytes : List UInt8} (h : s.findImport path imported = .ok found)
    (hf : s.disk.node? found = some (.file bytes)) : imported ≠ "" := by
  rintro rfl
  obtain ⟨p, hp, hloc⟩ := exists_candidate_of_findImport h
  have hempty : ∃ names, pieces '/' p = names ++ [""] := by
    rcases List.mem_cons.1 hp with rfl | hp
    · exact ⟨_, Disk.pieces_beside path ""⟩
    · obtain ⟨dir, -, rfl⟩ := List.mem_map.1 hp
      rw [Path.join]
      split
      · exact ⟨[], rfl⟩
      · split
        · next hslash => exact pieces_of_getLast? (by simpa using hslash)
        · exact ⟨_, pieces_append rfl dir ""⟩
  obtain ⟨names, hnames⟩ := hempty
  rw [Disk.node?_of_locate_concat_empty hnames hloc] at hf
  cases hf

/-- An import that is found at a file denotes the place of that file, unless the path to the place
that it denotes is too long. -/
theorem denoted?_of_findImport {s : Shelf} {path imported : String} {place found : Location}
    {schema : Schema} {names : List String} {bytes : List UInt8}
    (hr : s.read path = .ok (schema, names)) (hp : s.disk.locate path = .ok place)
    (hfits : FirstFits s.disk (s.candidates path imported))
    (h : s.findImport path imported = .ok found)
    (hf : s.disk.node? found = some (.file bytes)) : s.denoted? place imported = some found := by
  obtain ⟨place', name, bytes', -, hp', hnode, -, -, hname, -, -⟩ := exists_file_of_read hr
  obtain rfl : place = place' := Except.ok.inj (hp.symm.trans hp')
  have hbeside := Disk.locate_siblingOf hp hnode hname (ne_empty_of_findImport h hf)
  rw [findImport_eq_ok_iff, findSome?_reach hfits, Shelf.candidates, List.findSome?_cons] at h
  rw [Shelf.denoted?, ← hbeside, List.findSome?_cons]
  rw [List.findSome?_map] at h ⊢
  exact h

end Load

end ServiceCli
