import ServiceCli.Load.Loader
import ServiceCli.Proofs.Disk.Location

/-!
# The schema at a place

Several paths may lead to one place. Where a schema is read, what is read depends on the place
alone (`read_unique`): the last name on each path that leads to a file is the name of the file, so
all of them have the same extension. `NamesAt` gives the names of the schema at a place that are
generated when it is given.
-/

namespace ServiceCli.Load

open Proto Text

/-- The schema in the bytes of a file of a format. -/
def SchemaFormat.schemaOf? (f : SchemaFormat) (bytes : List UInt8) : Option Schema :=
  match f with
  | .yaml => (String.fromUTF8? ⟨bytes.toArray⟩).bind schemaOfYaml?
  | .json => (String.fromUTF8? ⟨bytes.toArray⟩).bind schemaOfJson?
  | .descriptorSet => schemaOfDescriptorSet? bytes

/-- Some path leads to the place and a schema is read there with these names to generate. -/
def NamesAt (s : Shelf) (place : Location) (names : List String) : Prop :=
  ∃ path schema, s.disk.locate path = .ok place ∧ s.read path = .ok (schema, names)

/-! ## Reading -/

theorem readText_eq_ok {d : Disk} {path t : String} (h : d.readText path = .ok t) :
    ∃ bytes, d.read path = .ok bytes ∧ String.fromUTF8? ⟨bytes.toArray⟩ = some t := by
  obtain ⟨bytes, hbytes, ht⟩ := bind_eq_ok_iff.1 h
  refine ⟨bytes, hbytes, ?_⟩
  split at ht
  · next hs =>
    rw [hs, Except.ok.inj ht]
  · cases ht

theorem readAs_eq_ok {s : Shelf} {path : String} {f : SchemaFormat} {schema : Schema}
    (h : s.readAs path f = .ok schema) :
    ∃ bytes, s.disk.read path = .ok bytes ∧ f.schemaOf? bytes = some schema := by
  cases f with
  | yaml =>
    obtain ⟨t, ht, hs⟩ := bind_eq_ok_iff.1 h
    obtain ⟨bytes, hbytes, hutf⟩ := readText_eq_ok (mapError_eq_ok_iff.1 ht)
    refine ⟨bytes, hbytes, ?_⟩
    split at hs
    · next hy => simp [SchemaFormat.schemaOf?, hutf, hy, Except.ok.inj hs]
    · cases hs
  | json =>
    obtain ⟨t, ht, hs⟩ := bind_eq_ok_iff.1 h
    obtain ⟨bytes, hbytes, hutf⟩ := readText_eq_ok (mapError_eq_ok_iff.1 ht)
    refine ⟨bytes, hbytes, ?_⟩
    split at hs
    · next hy => simp [SchemaFormat.schemaOf?, hutf, hy, Except.ok.inj hs]
    · cases hs
  | descriptorSet =>
    obtain ⟨bytes, hbytes, hs⟩ := bind_eq_ok_iff.1 h
    refine ⟨bytes, mapError_eq_ok_iff.1 hbytes, ?_⟩
    split at hs
    · next hy =>
      rw [SchemaFormat.schemaOf?, hy, Except.ok.inj hs]
    · cases hs

/-- What is read along a path is given by the name of the file and its bytes. -/
theorem exists_file_of_read {s : Shelf} {path : String} {schema : Schema} {names : List String}
    (h : s.read path = .ok (schema, names)) :
    ∃ place name bytes f, s.disk.locate path = .ok place ∧
      s.disk.node? place = some (.file bytes) ∧ place.getLast? = some name ∧
      (Path.extension? path).bind SchemaFormat.ofExtension? = some f ∧
      Path.fileName? path = some name ∧ f.schemaOf? bytes = some schema ∧
      names = f.targets schema := by
  unfold Shelf.read at h
  split at h
  · cases h
  · next f hf =>
    obtain ⟨schema', hs, hpair⟩ := map_eq_ok_iff.1 h
    obtain ⟨rfl, rfl⟩ := Prod.mk.inj hpair
    obtain ⟨bytes, hbytes, hschema⟩ := readAs_eq_ok hs
    obtain ⟨place, hloc, hnode⟩ := Disk.read_eq_ok hbytes
    obtain ⟨ext, hext, -⟩ := Option.bind_eq_some_iff.1 hf
    obtain ⟨name, hname, -⟩ := Option.bind_eq_some_iff.1 hext
    obtain ⟨-, dir, -, -, hplace⟩ := Disk.exists_directory_of_locate hloc hnode hname
    have hlast : place.getLast? = some name := by
      rw [hplace, List.getLast?_append, List.getLast?_singleton]
      rfl
    exact ⟨place, name, bytes, f, hloc, hnode, hlast, hf, hname, hschema, rfl⟩

/-- Along all paths to a place the same is read. -/
theorem read_unique {s : Shelf} {p q : String} {place : Location} {r r' : Schema × List String}
    (hp : s.disk.locate p = .ok place) (hq : s.disk.locate q = .ok place) (hr : s.read p = .ok r)
    (hr' : s.read q = .ok r') : r = r' := by
  obtain ⟨schema, names⟩ := r
  obtain ⟨schema', names'⟩ := r'
  obtain ⟨l, name, bytes, f, hl, hnode, hlast, hf, hname, hs, rfl⟩ := exists_file_of_read hr
  obtain ⟨l', name', bytes', f', hl', hnode', hlast', hf', hname', hs', rfl⟩ :=
    exists_file_of_read hr'
  obtain rfl : place = l := Except.ok.inj (hp.symm.trans hl)
  obtain rfl : place = l' := Except.ok.inj (hq.symm.trans hl')
  obtain rfl : name = name' := Option.some.inj (hlast.symm.trans hlast')
  have hext : Path.extension? p = Path.extension? q := by
    rw [Path.extension?, Path.extension?, hname, hname']
  rw [hext] at hf
  obtain rfl : f = f' := Option.some.inj (hf.symm.trans hf')
  obtain rfl : bytes = bytes' := by
    rw [hnode] at hnode'
    injection hnode' with h
    injection h
  rw [hs] at hs'
  rw [Option.some.inj hs']

theorem NamesAt.unique {s : Shelf} {place : Location} {names names' : List String}
    (h : NamesAt s place names) (h' : NamesAt s place names') : names = names' := by
  obtain ⟨p, schema, hp, hr⟩ := h
  obtain ⟨q, schema', hq, hr'⟩ := h'
  exact (Prod.mk.inj (read_unique hp hq hr hr')).2

end ServiceCli.Load
