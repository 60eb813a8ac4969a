import Mathlib.Data.Prod.Lex
import Mathlib.Data.String.Basic
import ServiceCli.Proofs.GoFile.RequestTypes

/-!
# The imports of a file

The imports that the requests of a file need stand in the order of their names, each once
(`GoImport.pairwise_ordered`). Each of them is for a package that some request type is found in
(`Proto.File.foreignPackages`), and no fixed import has the name of such a package
(`aliasOf_notMem_fixedImports`). So two imports of one name are those of two packages whose names
become the same in Go (`nodup_names_imports_iff`).
-/

namespace ServiceCli

open Command Proto Request Text

/-! ## Imports in order -/

namespace GoImport

/-- Imports are ordered as pairs of a name and a path. -/
theorem lt_iff {i j : GoImport} : i.lt j ↔ toLex (i.name, i.path) < toLex (j.name, j.path) := by
  simp [lt, Prod.Lex.toLex_lt_toLex]

theorem toLex_injective {i j : GoImport}
    (h : toLex (i.name, i.path) = toLex (j.name, j.path)) : i = j := by
  obtain ⟨hname, hpath⟩ := Prod.mk.inj (toLex.injective h)
  cases i
  cases j
  exact congrArg₂ GoImport.mk hname hpath

theorem pairwise_insert {i : GoImport} :
    ∀ {js : List GoImport}, js.Pairwise (·.lt ·) → (insert i js).Pairwise (·.lt ·)
  | [], _ => List.pairwise_singleton _ _
  | j :: js, h => by
    obtain ⟨hj, hjs⟩ := List.pairwise_cons.1 h
    rw [insert]
    split
    · exact h
    · next hne =>
      split
      · next hlt =>
        refine List.pairwise_cons.2 ⟨fun k hk => ?_, h⟩
        rcases List.mem_cons.1 hk with rfl | hk
        · exact hlt
        · exact lt_iff.2 ((lt_iff.1 hlt).trans (lt_iff.1 (hj k hk)))
      · next hlt =>
        have hji : j.lt i := by
          rcases lt_trichotomy (toLex (i.name, i.path)) (toLex (j.name, j.path)) with h | h | h
          · exact absurd (lt_iff.2 h) hlt
          · exact absurd (toLex_injective h) hne
          · exact lt_iff.2 h
        refine List.pairwise_cons.2 ⟨fun k hk => ?_, pairwise_insert hjs⟩
        rcases mem_insert_iff.1 hk with rfl | hk
        · exact hji
        · exact hj k hk

/-- Imports are put in order without repetition. -/
theorem pairwise_ordered (is : List GoImport) : (ordered is).Pairwise (·.lt ·) := by
  have hfold : ∀ (is js : List GoImport), js.Pairwise (·.lt ·) →
      (is.foldl (fun js i => insert i js) js).Pairwise (·.lt ·) := by
    intro is
    induction is with
    | nil => exact fun js hjs => hjs
    | cons i is ih => exact fun js hjs => ih _ (pairwise_insert hjs)
  exact hfold is [] List.Pairwise.nil

theorem nodup_ordered (is : List GoImport) : (ordered is).Nodup :=
  (pairwise_ordered is).imp fun hlt => by
    rintro rfl
    exact lt_irrefl _ (lt_iff.1 hlt)

/-- The options change where an import is found, not its name. -/
@[simp] theorem name_withOptions (o : Options) (i : GoImport) : (i.withOptions o).name = i.name := by
  unfold withOptions
  split <;> rfl

end GoImport

/-! ## Packages of other files -/

section Packages

variable (f : File) (imports : ImportMap)

/-- The other package that the request type of a method is imported from, if its path is known. -/
def Proto.File.foreignPackage? (m : Method) : Option String :=
  match relativePath f.package m.inputType with
  | some _ => none
  | none =>
    let package := (QualifiedName.ofReference m.inputType).package
    if package ≠ "" ∧ (imports.get? package).isSome then some package else none

/-- The other packages that the requests of a file are imported from. -/
def Proto.File.foreignPackages : List String :=
  f.calls.filterMap fun call => f.foreignPackage? imports call.2

variable {f imports}

theorem imported_requestOf (o : Options) (m : Method) :
    (requestOf f imports o m).imported = (f.foreignPackage? imports m).bind fun package =>
      (imports.get? package).map (GoImport.mk (QualifiedName.aliasOf package)) := by
  rw [File.foreignPackage?, requestOf]
  cases relativePath f.package m.inputType with
  | some path =>
    dsimp only
    split <;> rfl
  | none =>
    dsimp only
    rw [foreignRequest, QualifiedName.importAlias]
    by_cases hp : (QualifiedName.ofReference m.inputType).package = ""
    · simp [hp, RequestPlan.ofTypeName]
    · cases hpath : imports.get? (QualifiedName.ofReference m.inputType).package with
      | none => simp [hp, RequestPlan.ofTypeName]
      | some path => simp [hp, hpath, RequestPlan.ofTypeName]

/-- What the requests of a file need is one import for each package that they are imported from. -/
theorem mem_needed_iff (o : Options) {i : GoImport} :
    i ∈ (f.calls.filterMap fun call => (requestOf f imports o call.2).imported) ↔
      ∃ package ∈ f.foreignPackages imports, ∃ path, imports.get? package = some path ∧
        i = ⟨QualifiedName.aliasOf package, path⟩ := by
  simp only [File.foreignPackages, List.mem_filterMap, imported_requestOf, Option.bind_eq_some_iff,
    Option.map_eq_some_iff]
  constructor
  · rintro ⟨call, hcall, package, hpackage, path, hpath, rfl⟩
    exact ⟨package, ⟨call, hcall, hpackage⟩, path, hpath, rfl⟩
  · rintro ⟨package, ⟨call, hcall, hpackage⟩, path, hpath, rfl⟩
    exact ⟨call, hcall, package, hpackage, path, hpath, rfl⟩

theorem exists_path_of_mem_foreignPackages {package : String}
    (h : package ∈ f.foreignPackages imports) : ∃ path, imports.get? package = some path := by
  obtain ⟨call, -, hpackage⟩ := List.mem_filterMap.1 h
  rw [File.foreignPackage?] at hpackage
  split at hpackage
  · cases hpackage
  · obtain ⟨⟨-, hpath⟩, rfl⟩ := Option.ite_none_right_eq_some.1 hpackage |>.imp_right Option.some.inj
    exact Option.isSome_iff_exists.1 hpath

end Packages

/-! ## Names of imports -/

/-- The imports that are the same in every file with a stream, or without one. -/
def fixedImports (streaming : Bool) : List GoImport :=
  baseImports ++ if streaming then [streamImport] else []

theorem nodup_names_fixedImports (streaming : Bool) :
    ((fixedImports streaming).map GoImport.name).Nodup := by
  cases streaming <;> decide

/-- The name of another package ends as no fixed name does. -/
theorem aliasOf_notMem_fixedImports (streaming : Bool) (package : String) :
    QualifiedName.aliasOf package ∉ (fixedImports streaming).map GoImport.name := by
  have hends : "_pb".toList <:+ (QualifiedName.aliasOf package).toList := by
    rw [QualifiedName.aliasOf, String.toList_append]
    exact List.suffix_append _ _
  have hfixed : ∀ name ∈ (fixedImports streaming).map GoImport.name,
      ¬"_pb".toList <:+ name.toList := by
    cases streaming <;> decide
  exact fun hmem => hfixed _ hmem hends

/-- The names of the imports of a built file are different exactly if no two packages that it
imports have one name and different paths. -/
theorem nodup_names_imports_iff {f : File} {imports : ImportMap} {o : Options} {go : GoFile}
    (h : buildFile f imports o = .ok (some go)) :
    (go.imports.map GoImport.name).Nodup ↔
      ∀ p ∈ f.foreignPackages imports, ∀ q ∈ f.foreignPackages imports,
        QualifiedName.aliasOf p = QualifiedName.aliasOf q → imports.get? p = imports.get? q := by
  have hnames : go.imports.map GoImport.name = (fixedImports f.hasStream).map GoImport.name ++
      (GoImport.ordered (f.calls.filterMap fun call =>
        (requestOf f imports o call.2).imported)).map GoImport.name := by
    rw [imports_of_buildFile h, fileImports, List.map_map, ← List.map_append]
    exact List.map_congr_left fun i _ => i.name_withOptions o
  have hdisjoint : ((fixedImports f.hasStream).map GoImport.name).Disjoint
      ((GoImport.ordered (f.calls.filterMap fun call =>
        (requestOf f imports o call.2).imported)).map GoImport.name) := by
    intro name hfixed hneeded
    obtain ⟨i, hi, rfl⟩ := List.mem_map.1 hneeded
    obtain ⟨package, -, path, -, rfl⟩ := (mem_needed_iff o).1 (GoImport.mem_ordered_iff.1 hi)
    exact aliasOf_notMem_fixedImports _ _ hfixed
  rw [hnames, List.nodup_append', List.nodup_map_iff_inj_on (GoImport.nodup_ordered _)]
  simp only [nodup_names_fixedImports, hdisjoint, true_and, and_true, GoImport.mem_ordered_iff,
    mem_needed_iff]
  constructor
  · intro hinj p hp q hq hname
    obtain ⟨path, hpath⟩ := exists_path_of_mem_foreignPackages hp
    obtain ⟨path', hpath'⟩ := exists_path_of_mem_foreignPackages hq
    have hsame := hinj _ ⟨p, hp, path, hpath, rfl⟩ _ ⟨q, hq, path', hpath', rfl⟩ hname
    rw [hpath, hpath', (GoImport.mk.inj hsame).2]
  · rintro hpath _ ⟨p, hp, path, hp', rfl⟩ _ ⟨q, hq, path', hq', rfl⟩ hname
    obtain rfl := Option.some.inj (hp'.symm.trans ((hpath p hp q hq hname).trans hq'))
    exact congrArg₂ GoImport.mk hname rfl

end ServiceCli
