import Mathlib.Logic.Relation
import Mathlib.Order.WellFoundedSet
import ServiceCli.Proofs.Load.Given

/-!
# The roots of a set of descriptors

Of a compiled set of descriptors only the roots are generated. What the other files declare is
reached from them: whoever follows the files that depend on a file upwards comes to a root, or in
a circle (`exists_root_or_circle`). So where no file depends on itself through others, the roots
cover the set, and a set that is given has a name to generate above each of its files
(`roots_cover`).

Names decide what depends on what. A file may depend on names that no file of the set has, and on
several files where these share a name.
-/

namespace ServiceCli

open Proto Relation

namespace Schema

/-- A file of the schema lists the name of another one among its dependencies. -/
def DependsOn (s : Schema) (f g : File) : Prop :=
  f ∈ s.files ∧ g ∈ s.files ∧ g.name ∈ f.dependencies

/-- A file of the schema whose name no file of the schema lists. -/
def IsRoot (s : Schema) (f : File) : Prop :=
  f ∈ s.files ∧ ∀ g ∈ s.files, f.name ∉ g.dependencies

instance (s : Schema) (f : File) : Decidable (s.IsRoot f) :=
  inferInstanceAs (Decidable (_ ∧ _))

/-- No file of the schema depends on itself through others. -/
def Acyclic (s : Schema) : Prop :=
  ∀ f, ¬TransGen s.DependsOn f f

/-- What stands above a file and not below it. -/
def StrictlyAbove (s : Schema) (f g : File) : Prop :=
  TransGen s.DependsOn f g ∧ ¬TransGen s.DependsOn g f

section Dependencies

variable {s : Schema} {f : File}

theorem isDependency_eq_true_iff {name : String} :
    s.isDependency name = true ↔ ∃ g ∈ s.files, name ∈ g.dependencies := by
  simp [isDependency]

/-- The names of the roots, in the order of the files. -/
theorem rootNames_eq (s : Schema) :
    s.rootNames = (s.files.filter fun f => s.IsRoot f).map File.name := by
  rw [rootNames, fileNames, List.filter_map]
  refine congrArg _ (List.filter_congr fun f hf => ?_)
  rw [Bool.eq_iff_iff, Function.comp_apply, Bool.not_eq_true', ← Bool.not_eq_true,
    isDependency_eq_true_iff, decide_eq_true_eq]
  simp [IsRoot, hf]

theorem mem_rootNames_iff {name : String} :
    name ∈ s.rootNames ↔ ∃ f, s.IsRoot f ∧ f.name = name := by
  rw [rootNames_eq, List.mem_map]
  refine exists_congr fun f => and_congr_left fun _ => ?_
  rw [List.mem_filter, decide_eq_true_eq]
  exact and_iff_right_of_imp And.left

/-- A file that is not a root stands below another one. -/
theorem exists_dependsOn (hf : f ∈ s.files) (hroot : ¬s.IsRoot f) : ∃ g, s.DependsOn g f := by
  by_contra hnone
  exact hroot ⟨hf, fun g hg hin => hnone ⟨g, hg, hf, hin⟩⟩

instance (s : Schema) : IsStrictOrder File s.StrictlyAbove where
  irrefl _ h := h.2 h.1
  trans _ _ _ h h' := ⟨h.1.trans h'.1, fun hback => h'.2 (hback.trans h.1)⟩

/-- Above each file there is a root or a circle. -/
theorem exists_root_or_circle (hf : f ∈ s.files) :
    ∃ r, ReflTransGen s.DependsOn r f ∧ (s.IsRoot r ∨ TransGen s.DependsOn r r) := by
  have hwf : {f | f ∈ s.files}.WellFoundedOn s.StrictlyAbove :=
    s.files.finite_toSet.wellFoundedOn
  apply hwf.induction hf
  intro f hf ih
  by_cases hroot : s.IsRoot f
  · exact ⟨f, .refl, Or.inl hroot⟩
  · obtain ⟨g, hg⟩ := exists_dependsOn hf hroot
    by_cases hback : TransGen s.DependsOn f g
    · exact ⟨f, .refl, Or.inr (hback.tail hg)⟩
    · obtain ⟨r, hr, hend⟩ := ih g hg.1 ⟨.single hg, hback⟩
      exact ⟨r, hr.tail hg, hend⟩

theorem Acyclic.exists_root (h : s.Acyclic) (hf : f ∈ s.files) :
    ∃ r, s.IsRoot r ∧ ReflTransGen s.DependsOn r f := by
  obtain ⟨r, hr, hroot | hcircle⟩ := exists_root_or_circle hf
  · exact ⟨r, hroot, hr⟩
  · exact absurd hcircle (h r)

/-- A rank that grows with every dependency rules out circles. -/
theorem acyclic_of_rank (rank : File → Nat)
    (h : ∀ f ∈ s.files, ∀ g ∈ s.files, g.name ∈ f.dependencies → rank f < rank g) :
    s.Acyclic := by
  intro f hcircle
  have hgrows : TransGen (· < ·) (rank f) (rank f) :=
    hcircle.lift rank fun f g hfg => h f hfg.1 g hfg.2.1 hfg.2.2
  rw [transGen_eq_self] at hgrows
  exact Nat.lt_irrefl _ hgrows

end Dependencies

end Schema

namespace Load

/-- The set of descriptors at a path is loaded because it is given, not as an import before. -/
structure SetGiven (shelf : Shelf) (path : String) (s : Schema) (l n : Loader) : Prop where
  format : SchemaFormat.ofPath? path = some .descriptorSet
  schema : shelf.readAs path .descriptorSet = .ok s
  new : ∀ place, shelf.disk.locate path = .ok place → place ∉ l.loaded
  run : (load shelf path).run.run l = (.ok (), n)

/-- Of a set that is given, the names of the roots are to be generated. -/
theorem SetGiven.mem_targets_iff {shelf : Shelf} {path : String} {s : Schema} {l n : Loader}
    (h : SetGiven shelf path s l n) (name : String) :
    name ∈ n.targets ↔ name ∈ l.targets ∨ name ∈ s.rootNames := by
  obtain ⟨place, hp, ⟨hold, -⟩ | ⟨-, -, names, hnames, hmem⟩⟩ := load_ok h.run
  · exact absurd hold (h.new place hp)
  · have hroots : NamesAt shelf place s.rootNames := by
      refine ⟨path, s, hp, ?_⟩
      rw [Shelf.read, h.format]
      exact map_eq_ok_iff.2 ⟨s, h.schema, rfl⟩
    rw [hmem, hnames.unique hroots]

/-- The names of the roots are those of the files that no file lists, in the order of the files.
Where no file depends on itself through others, each file is a root or reached from one, and a set
with a file has a root. When the set is given, the names to generate are those from before and
those of the roots, so each of its files is reached from one of a name to generate. -/
theorem roots_cover (s : Schema) (h : s.Acyclic) :
    (s.rootNames = (s.files.filter fun f => s.IsRoot f).map File.name) ∧
    (∀ f ∈ s.files, s.IsRoot f ∨ ∃ r, s.IsRoot r ∧ TransGen s.DependsOn r f) ∧
    (s.files ≠ [] → s.rootNames ≠ []) ∧
    ∀ shelf path l n, SetGiven shelf path s l n →
      (∀ name, name ∈ n.targets ↔ name ∈ l.targets ∨ name ∈ s.rootNames) ∧
      (∀ f ∈ s.files, ∃ r ∈ s.files, r.name ∈ n.targets ∧ ReflTransGen s.DependsOn r f) ∧
      (s.files ≠ [] → n.targets ≠ []) := by
  have hroot {f : File} (hf : f ∈ s.files) :
      ∃ r, s.IsRoot r ∧ r.name ∈ s.rootNames ∧ ReflTransGen s.DependsOn r f := by
    obtain ⟨r, hr, hreach⟩ := h.exists_root hf
    exact ⟨r, hr, Schema.mem_rootNames_iff.2 ⟨r, hr, rfl⟩, hreach⟩
  refine ⟨s.rootNames_eq, fun f hf => ?_, fun hne => ?_, fun shelf path l n hgiven => ?_⟩
  · obtain ⟨r, hr, -, hreach⟩ := hroot hf
    rcases reflTransGen_iff_eq_or_transGen.1 hreach with rfl | hreach
    · exact Or.inl hr
    · exact Or.inr ⟨r, hr, hreach⟩
  · obtain ⟨f, hf⟩ := List.exists_mem_of_ne_nil _ hne
    obtain ⟨r, -, hname, -⟩ := hroot hf
    exact List.ne_nil_of_mem hname
  · have htarget {f : File} (hf : f ∈ s.files) :
        ∃ r ∈ s.files, r.name ∈ n.targets ∧ ReflTransGen s.DependsOn r f := by
      obtain ⟨r, hr, hname, hreach⟩ := hroot hf
      exact ⟨r, hr.1, (hgiven.mem_targets_iff _).2 (Or.inr hname), hreach⟩
    refine ⟨hgiven.mem_targets_iff, fun f hf => htarget hf, fun hne => ?_⟩
    obtain ⟨f, hf⟩ := List.exists_mem_of_ne_nil _ hne
    obtain ⟨r, -, hname, -⟩ := htarget hf
    exact List.ne_nil_of_mem hname

/-- Two roots that list the same name, which two files have. One of them lists it twice, and a name
that no file has. -/
def sharedSet : Schema where
  files :=
    [{ name := "c" }, { name := "a", dependencies := ["b", "z", "b"] },
      { name := "b", dependencies := ["c"] }, { name := "b", dependencies := ["c"] },
      { name := "d", dependencies := ["b"] }]

/-- The set on a disk. -/
def sharedShelf : Shelf where
  disk.entries :=
    [(["s.pb"], .file
      [10, 3, 10, 1, 99,
        10, 12, 10, 1, 97, 26, 1, 98, 26, 1, 122, 26, 1, 98,
        10, 6, 10, 1, 98, 26, 1, 99,
        10, 6, 10, 1, 98, 26, 1, 99,
        10, 6, 10, 1, 100, 26, 1, 98])]

/-- The two roots are generated, and each of the other files is reached from one of them. -/
theorem roots_cover_sharedSet :
    sharedSet.Acyclic ∧ sharedSet.rootNames = ["a", "d"] ∧
      SetGiven sharedShelf "s.pb" sharedSet {}
        ⟨[["s.pb"]], sharedSet.files.eraseDups, ["a", "d"]⟩ ∧
      ∀ f ∈ sharedSet.files, ∃ r ∈ sharedSet.files, r.name ∈ ["a", "d"] ∧
        ReflTransGen sharedSet.DependsOn r f := by
  have hacyclic : sharedSet.Acyclic :=
    Schema.acyclic_of_rank (fun f => ["a", "d", "b", "c"].idxOf f.name) (by decide +kernel)
  have hgiven : SetGiven sharedShelf "s.pb" sharedSet {}
      ⟨[["s.pb"]], sharedSet.files.eraseDups, ["a", "d"]⟩ :=
    { format := by decide +kernel
      schema := by decide +kernel
      new := fun _ _ => List.not_mem_nil
      run := of_decide_eq_true (p := @Eq (Except LoadError Unit × Loader) _ _) (by decide +kernel) }
  obtain ⟨hroots, -, -, hload⟩ := roots_cover sharedSet hacyclic
  obtain ⟨-, hcover, -⟩ := hload sharedShelf "s.pb" {} _ hgiven
  exact ⟨hacyclic, hroots.trans (by decide +kernel), hgiven, hcover⟩

end Load

end ServiceCli
