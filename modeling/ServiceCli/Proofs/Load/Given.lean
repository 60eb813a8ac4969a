import Mathlib.Data.List.Induction
import ServiceCli.Cli.Session
import ServiceCli.Proofs.Load.Reached

/-!
# The names to generate

The schemas that a user gives are loaded one after another, each with all that it imports, and
the names of the given ones are to be generated. A place is loaded only once. A schema whose place
was loaded before its turn came as an import of an earlier one adds no name, although it is given.

`GivenFirst` marks the places that are loaded because they are given. `targets_of_loadAll` says
that the names to generate are those of the schemas at these places and no others, that every other
given schema is one that an earlier one imports, and hence exactly when no name of a given schema
is missing.
-/

namespace ServiceCli.Load

open Proto

/-! ## One given schema -/

/-- What is loaded as an import adds no name. -/
theorem kept_targets (s : Shelf) : Kept s fun _ l m => m.targets = l.targets where
  refl _ _ := rfl
  trans _ _ _ _ h h' := h'.trans h
  note _ _ _ := rfl
  imported _ _ _ h := h
  file _ := rfl

/-- A given schema that was not loaded before adds its names, and its place is loaded after. -/
theorem load_ok {s : Shelf} {path : String} {l n : Loader}
    (h : (load s path).run.run l = (.ok (), n)) :
    ∃ place, s.disk.locate path = .ok place ∧
      ((place ∈ l.loaded ∧ n = l) ∨
        place ∉ l.loaded ∧ place ∈ n.loaded ∧ ∃ names, NamesAt s place names ∧
          ∀ name, name ∈ n.targets ↔ name ∈ l.targets ∨ name ∈ names) := by
  obtain ⟨place, hp, hold | ⟨hnew, schema, names, hr, hadd⟩⟩ := run_loadWithin_ok h
  · exact ⟨place, hp, Or.inl hold⟩
  · refine ⟨place, hp, Or.inr ⟨hnew, ?_⟩⟩
    obtain ⟨m, k, himports, hfiles, hn, -, hmem⟩ := run_addSchema_ok hadd
    have hk {R : String → Loader → Loader → Prop} (hR : Kept s R) :
        R path { l with loaded := place :: l.loaded } k :=
      hR.of_addSchema_ok hr
        (fun p => hR.keeps_loadWithin _ false p fun ht => by cases ht) himports hfiles
    have htargets : k.targets = l.targets := hk (kept_targets s)
    have hloaded : place ∈ k.loaded := hk (kept_loaded s) List.mem_cons_self
    refine ⟨hn ▸ hloaded, names, ⟨path, schema, hp, hr⟩, fun name => ?_⟩
    rw [hmem, htargets]
    simp

/-! ## All given schemas -/

theorem loadAll_concat_eq_ok_iff {s : Shelf} {path : String} {n : Loader} :
    ∀ {paths : List String} {l : Loader}, Cli.loadAll s (paths ++ [path]) l = .ok n ↔
      ∃ m, Cli.loadAll s paths l = .ok m ∧ (load s path).run.run m = (.ok (), n)
  | [], l => by
    simp only [List.nil_append, Cli.loadAll]
    constructor
    · intro h
      refine ⟨l, rfl, ?_⟩
      split at h
      · next hr => rw [hr, Except.ok.inj h]
      · cases h
    · rintro ⟨m, hm, hr⟩
      rw [Except.ok.inj hm, hr]
  | p :: paths, l => by
    simp only [List.cons_append, Cli.loadAll]
    split
    · exact loadAll_concat_eq_ok_iff
    · simp

/-- The place is loaded because a path to it is given: when the turn of that path comes, nothing
that was given before has led there. -/
def GivenFirst (s : Shelf) (paths : List String) (place : Location) : Prop :=
  ∃ before path m, before ++ [path] <+: paths ∧ Cli.loadAll s before {} = .ok m ∧
    s.disk.locate path = .ok place ∧ place ∉ m.loaded

theorem givenFirst_concat_iff {s : Shelf} {paths : List String} {path : String} {m : Loader}
    {place : Location} (h : Cli.loadAll s paths {} = .ok m) :
    GivenFirst s (paths ++ [path]) place ↔
      GivenFirst s paths place ∨ s.disk.locate path = .ok place ∧ place ∉ m.loaded := by
  constructor
  · rintro ⟨before, p, k, hpre, hk, hp, hnew⟩
    rcases List.prefix_concat_iff.1 hpre with heq | hpre
    · obtain ⟨rfl, hpath⟩ := List.append_inj' heq rfl
      obtain rfl : p = path := List.cons.inj hpath |>.1
      obtain rfl : k = m := Except.ok.inj (hk.symm.trans h)
      exact Or.inr ⟨hp, hnew⟩
    · exact Or.inl ⟨before, p, k, hpre, hk, hp, hnew⟩
  · rintro (⟨before, p, k, hpre, hrest⟩ | ⟨hp, hnew⟩)
    · exact ⟨before, p, k, hpre.trans (List.prefix_append _ _), hrest⟩
    · exact ⟨paths, path, m, List.prefix_rfl, h, hp, hnew⟩

/-- The names to generate are those of the schemas that are loaded because they are given. -/
theorem mem_targets_of_loadAll {s : Shelf} {name : String} :
    ∀ {paths : List String} {l : Loader}, Cli.loadAll s paths {} = .ok l →
      (name ∈ l.targets ↔
        ∃ place names, GivenFirst s paths place ∧ NamesAt s place names ∧ name ∈ names) := by
  intro paths
  induction paths using List.reverseRecOn with
  | nil =>
    intro l h
    obtain rfl : {} = l := Except.ok.inj h
    constructor
    · intro hn
      cases hn
    · rintro ⟨place, names, ⟨before, path, m, hpre, -⟩, -⟩
      simp at hpre
  | append_singleton paths path ih =>
    intro l h
    obtain ⟨m, hm, hload⟩ := loadAll_concat_eq_ok_iff.1 h
    simp only [givenFirst_concat_iff hm]
    obtain ⟨place, hp, ⟨hold, rfl⟩ | ⟨hnew, -, names, hnames, hmem⟩⟩ := load_ok hload
    · rw [ih hm]
      constructor
      · rintro ⟨place', names, hg, hrest⟩
        exact ⟨place', names, Or.inl hg, hrest⟩
      · rintro ⟨place', names, hg | ⟨hp', hnew⟩, hrest⟩
        · exact ⟨place', names, hg, hrest⟩
        · rw [Except.ok.inj (hp.symm.trans hp')] at hold
          exact absurd hold hnew
    · rw [hmem, ih hm]
      constructor
      · rintro (⟨place', names', hg, hrest⟩ | hname)
        · exact ⟨place', names', Or.inl hg, hrest⟩
        · exact ⟨place, names, Or.inr ⟨hp, hnew⟩, hnames, hname⟩
      · rintro ⟨place', names', hg | ⟨hp', -⟩, hnames', hname⟩
        · exact Or.inl ⟨place', names', hg, hnames', hname⟩
        · obtain rfl : place = place' := Except.ok.inj (hp.symm.trans hp')
          rw [hnames'.unique hnames] at hname
          exact Or.inr hname

/-- What is loaded is so because it is given, or because something given imports it. -/
theorem givenFirst_or_imported {s : Shelf} {paths : List String} {place : Location} :
    ∀ {before : List String} {m : Loader}, before <+: paths → Cli.loadAll s before {} = .ok m →
      place ∈ m.loaded → GivenFirst s paths place ∨ ∃ q ∈ before, ImportsPlace s q place := by
  intro before
  induction before using List.reverseRecOn with
  | nil =>
    intro m _ h hp
    obtain rfl : {} = m := Except.ok.inj h
    cases hp
  | append_singleton before q ih =>
    intro m hpre h hp
    obtain ⟨k, hk, hload⟩ := loadAll_concat_eq_ok_iff.1 h
    have hold (hin : place ∈ k.loaded) :
        GivenFirst s paths place ∨ ∃ q' ∈ before ++ [q], ImportsPlace s q' place := by
      rcases ih ((List.prefix_append _ _).trans hpre) hk hin with hg | ⟨q', hq', himp⟩
      · exact Or.inl hg
      · exact Or.inr ⟨q', List.mem_append_left _ hq', himp⟩
    by_cases hin : place ∈ k.loaded
    · exact hold hin
    · rcases mem_loaded_of_load hload hp with hin' | hreach
      · exact absurd hin' hin
      · rcases hreach.locate_or_importsPlace with hloc | himp
        · exact Or.inl ⟨before, q, k, hpre, hk, hloc, hin⟩
        · exact Or.inr ⟨q, by simp, himp⟩

/-- Where all given schemas are loaded, each of them has been read. -/
theorem namesAt_of_loadAll {s : Shelf} :
    ∀ {paths : List String} {l : Loader}, Cli.loadAll s paths {} = .ok l →
      AllRead s {} l ∧ ∀ path ∈ paths, ∃ place names, s.disk.locate path = .ok place ∧
        NamesAt s place names := by
  intro paths
  induction paths using List.reverseRecOn with
  | nil =>
    intro l h
    obtain rfl : {} = l := Except.ok.inj h
    exact ⟨.of_eq rfl, by simp⟩
  | append_singleton paths path ih =>
    intro l h
    obtain ⟨m, hm, hload⟩ := loadAll_concat_eq_ok_iff.1 h
    obtain ⟨hread, hpaths⟩ := ih hm
    refine ⟨hread.trans (allRead_of_loadWithin hload), fun p hp => ?_⟩
    rcases List.mem_append.1 hp with hp | hp
    · exact hpaths p hp
    · obtain rfl := List.mem_singleton.1 hp
      obtain ⟨place, hplace, ⟨hold, -⟩ | ⟨-, -, names, hnames, -⟩⟩ := load_ok hload
      · rcases hread place hold with hin | ⟨names, hnames⟩
        · cases hin
        · exact ⟨place, names, hplace, hnames⟩
      · exact ⟨place, names, hplace, hnames⟩

/-- Where all given schemas are loaded, so are the first ones of them. -/
theorem exists_loadAll_of_prefix {s : Shelf} {before paths : List String} {l : Loader}
    (hpre : before <+: paths) (h : Cli.loadAll s paths {} = .ok l) :
    ∃ m, Cli.loadAll s before {} = .ok m := by
  obtain ⟨after, rfl⟩ := hpre
  induction after using List.reverseRecOn generalizing l with
  | nil => exact ⟨l, by simpa using h⟩
  | append_singleton after path ih =>
    rw [← List.append_assoc, loadAll_concat_eq_ok_iff] at h
    obtain ⟨m, hm, -⟩ := h
    exact ih hm

/-- Every name of every given schema is one to generate. -/
def AllGenerated (s : Shelf) (paths targets : List String) : Prop :=
  ∀ path ∈ paths, ∀ place names, s.disk.locate path = .ok place → NamesAt s place names →
    names ⊆ targets

/-- Each given schema has been read. The names to generate are those of the schemas at the places
that are loaded because they are given. Every other given schema is one that an earlier one
imports. So no name of a given schema is missing exactly if these others have no names but those
of the former. -/
theorem targets_of_loadAll {s : Shelf} {paths : List String} {l : Loader}
    (h : Cli.loadAll s paths {} = .ok l) :
    (∀ path ∈ paths, ∃ place names, s.disk.locate path = .ok place ∧ NamesAt s place names) ∧
    (∀ name, name ∈ l.targets ↔
      ∃ place names, GivenFirst s paths place ∧ NamesAt s place names ∧ name ∈ names) ∧
    (∀ before path place, before ++ [path] <+: paths → s.disk.locate path = .ok place →
      ¬GivenFirst s paths place → ∃ q ∈ before, ImportsPlace s q place) ∧
    (AllGenerated s paths l.targets ↔
      ∀ path ∈ paths, ∀ place names, s.disk.locate path = .ok place →
        ¬GivenFirst s paths place → NamesAt s place names → ∀ name ∈ names,
          ∃ first names', GivenFirst s paths first ∧ NamesAt s first names' ∧ name ∈ names') := by
  have hmem : ∀ name, name ∈ l.targets ↔
      ∃ place names, GivenFirst s paths place ∧ NamesAt s place names ∧ name ∈ names :=
    fun name => mem_targets_of_loadAll h
  refine ⟨(namesAt_of_loadAll h).2, hmem, ?_, ?_⟩
  · intro before path place hpre hp hnot
    obtain ⟨m, hm⟩ := exists_loadAll_of_prefix ((List.prefix_append _ _).trans hpre) h
    have hin : place ∈ m.loaded := by
      by_contra hnew
      exact hnot ⟨before, path, m, hpre, hm, hp, hnew⟩
    rcases givenFirst_or_imported ((List.prefix_append _ _).trans hpre) hm hin with hg | himp
    · exact absurd hg hnot
    · exact himp
  · constructor
    · intro hall path hpath place names hp _ hnames name hname
      exact (hmem name).1 (hall path hpath place names hp hnames hname)
    · intro hothers path hpath place names hp hnames name hname
      by_cases hg : GivenFirst s paths place
      · exact (hmem name).2 ⟨place, names, hg, hnames, hname⟩
      · exact (hmem name).2 (hothers path hpath place names hp hg hnames name hname)

/-- A schema that imports a compiled set of descriptors with one file, and the set. -/
def schemaAndSet : Shelf where
  disk.entries :=
    [(["a.json"], .file [91, 91, 34, 98, 46, 112, 98, 34, 93, 93]),
      (["b.pb"], .file [10, 3, 10, 1, 98])]

/-- The set is given, but not first. -/
theorem set_not_givenFirst :
    Cli.loadAll schemaAndSet ["a.json", "b.pb"] {}
        = .ok ⟨[["b.pb"], ["a.json"]], [{ name := "b" }], []⟩ ∧
      NamesAt schemaAndSet ["b.pb"] ["b"] ∧
      ¬GivenFirst schemaAndSet ["a.json", "b.pb"] ["b.pb"] ∧
      ¬AllGenerated schemaAndSet ["a.json", "b.pb"] [] := by
  have hload : Cli.loadAll schemaAndSet ["a.json", "b.pb"] {}
      = .ok ⟨[["b.pb"], ["a.json"]], [{ name := "b" }], []⟩ := by decide +kernel
  have hplace : schemaAndSet.disk.locate "b.pb" = .ok ["b.pb"] := by decide +kernel
  have hnames : NamesAt schemaAndSet ["b.pb"] ["b"] :=
    ⟨"b.pb", ⟨[], [{ name := "b" }]⟩, hplace, by decide +kernel⟩
  obtain ⟨-, hmem, -⟩ := targets_of_loadAll hload
  refine ⟨hload, hnames, fun hg => ?_, fun hall => ?_⟩
  · have hb : "b" ∈ ([] : List String) :=
      (hmem "b").2 ⟨["b.pb"], ["b"], hg, hnames, List.mem_singleton.2 rfl⟩
    cases hb
  · have hb := hall "b.pb" (by simp) ["b.pb"] ["b"] hplace hnames (List.mem_singleton.2 rfl)
    cases hb

end ServiceCli.Load
