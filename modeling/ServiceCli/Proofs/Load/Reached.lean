import ServiceCli.Proofs.Load.Place
import ServiceCli.Proofs.Load.Steps

/-!
# What a load reaches and reads

The schema at a path leads to those that it imports, and on from these (`Reaches`). A load notes
no place but those that the path reaches (`kept_reaches`), and where it succeeds the schemas at
all of them were read (`allRead_of_loadWithin`).
-/

namespace ServiceCli.Load

open Proto

/-! ## Places that a load reaches -/

/-- The schema at the path is the one at the place, or imports it through any number of others. -/
inductive Reaches (s : Shelf) : String → Location → Prop
  | here {path : String} {place : Location} : s.disk.locate path = .ok place →
    Reaches s path place
  | imported {path i : String} {schema : Schema} {names : List String} {found place : Location} :
    s.read path = .ok (schema, names) → i ∈ schema.imports → s.findImport path i = .ok found →
    Reaches s found.path place → Reaches s path place

/-- The schema at the path imports the one at the place, itself or through others. -/
def ImportsPlace (s : Shelf) (path : String) (place : Location) : Prop :=
  ∃ schema names i found, s.read path = .ok (schema, names) ∧ i ∈ schema.imports ∧
    s.findImport path i = .ok found ∧ Reaches s found.path place

theorem Reaches.locate_or_importsPlace {s : Shelf} {path : String} {place : Location}
    (h : Reaches s path place) : s.disk.locate path = .ok place ∨ ImportsPlace s path place := by
  cases h with
  | here hp => exact Or.inl hp
  | imported hr hi hf hrest => exact Or.inr ⟨_, _, _, _, hr, hi, hf, hrest⟩

/-- Places stay loaded. -/
theorem kept_loaded (s : Shelf) : Kept s fun _ l m => l.loaded ⊆ m.loaded where
  refl _ _ := List.Subset.refl _
  trans _ _ _ _ := List.Subset.trans
  note _ _ _ := List.subset_cons_self _ _
  imported _ _ _ h := h
  file _ := List.Subset.refl _

/-- No place is loaded that the path does not reach. -/
theorem kept_reaches (s : Shelf) :
    Kept s fun path l m => ∀ place ∈ m.loaded, place ∈ l.loaded ∨ Reaches s path place where
  refl _ _ _ h := Or.inl h
  trans _ _ _ _ h h' place hp := by
    rcases h' place hp with hm | hr
    · exact h place hm
    · exact Or.inr hr
  note _ hp _ place hm := by
    rcases List.mem_cons.1 hm with rfl | hm
    · exact Or.inr (.here hp)
    · exact Or.inl hm
  imported hr hi hf h place hp := by
    rcases h place hp with hm | hreach
    · exact Or.inl hm
    · exact Or.inr (.imported hr hi hf hreach)
  file _ _ h := Or.inl h

theorem mem_loaded_of_load {s : Shelf} {path : String} {l n : Loader} {place : Location}
    (h : (load s path).run.run l = (.ok (), n)) (hp : place ∈ n.loaded) :
    place ∈ l.loaded ∨ Reaches s path place := by
  have hk := (kept_reaches s).keeps_loadWithin s.room true path (fun _ _ names l _ _ place hm => by
    obtain ⟨n, hrun, hloaded, -⟩ := run_forM_addTarget names l
    rw [hrun, hloaded] at hm
    exact Or.inl hm) l
  rw [load] at h
  rw [h] at hk
  exact hk place hp

/-! ## Schemas that are read -/

/-- The schema at every place that is loaded between is read. -/
def AllRead (s : Shelf) (l m : Loader) : Prop :=
  ∀ place ∈ m.loaded, place ∈ l.loaded ∨ ∃ names, NamesAt s place names

theorem AllRead.of_eq {s : Shelf} {l m : Loader} (h : m.loaded = l.loaded) : AllRead s l m :=
  fun _ hp => Or.inl (h ▸ hp)

theorem AllRead.trans {s : Shelf} {l m n : Loader} (h : AllRead s l m) (h' : AllRead s m n) :
    AllRead s l n := fun place hp => (h' place hp).elim (h place) Or.inr

/-- A load that succeeds has read all that it loads. -/
theorem allRead_of_loadWithin {s : Shelf} :
    ∀ {room : Nat} {isTarget : Bool} {path : String} {l n : Loader},
      (loadWithin s room isTarget path).run.run l = (.ok (), n) → AllRead s l n
  | 0, isTarget, path, l, n, h => by
    obtain rfl : l = n := (Prod.mk.inj h).2
    exact .of_eq rfl
  | room + 1, isTarget, path, l, n, h => by
    obtain ⟨place, hp, ⟨-, rfl⟩ | ⟨-, schema, names, hr, hadd⟩⟩ := run_loadWithin_ok h
    · exact .of_eq rfl
    · obtain ⟨m, k, himports, hfiles, hloaded, -⟩ := run_addSchema_ok hadd
      have hm : AllRead s { l with loaded := place :: l.loaded } m := by
        refine of_forM_ok (fun _ => .of_eq rfl) (fun _ _ _ => .trans) ?_ himports
        intro i _ l m hload
        obtain ⟨found, -, hload⟩ := run_loadImport_ok hload
        exact allRead_of_loadWithin hload
      have hk : n.loaded = m.loaded := hloaded.trans (loaded_of_forM_addFile hfiles)
      intro q hq
      rcases hm.trans (.of_eq hk) q hq with hq | hq
      · rcases List.mem_cons.1 hq with rfl | hq
        · exact Or.inr ⟨names, path, schema, hp, hr⟩
        · exact Or.inl hq
      · exact Or.inr hq

end ServiceCli.Load
