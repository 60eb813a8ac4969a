import Mathlib.Data.String.Basic
import ServiceCli.Proofs.GoText.Named
import ServiceCli.Proofs.Text.Cuts

/-!
# The import block

The imports of a file are written in two groups, that of the standard library and that of all others,
each in the order of the paths (`Regrouped`). Imports of one path keep their order, and there is no
other way to arrange them so (`Regrouped.unique`), because a list in the order of some key is given
by its parts of equal key (`eq_of_filter_key_eq`). So the block does not depend on the order of the
imports, but for those that share a path.
-/

namespace ServiceCli

open Text

/-! ## Lists in the order of a key -/

section Key

variable {α β : Type} [LinearOrder β] {key : α → β}

theorem pairwise_key_mergeSort (key : α → β) (l : List α) :
    (l.mergeSort fun x y => decide (key x ≤ key y)).Pairwise fun x y => key x ≤ key y := by
  have hsorted : (l.mergeSort fun x y => decide (key x ≤ key y)).Pairwise
      fun x y => decide (key x ≤ key y) = true :=
    List.pairwise_mergeSort (fun x y z => by simpa using le_trans)
      (fun x y => by simpa using le_total (key x) (key y)) l
  simpa using hsorted

/-- The members of one key keep their order when a list is sorted. -/
theorem filter_key_mergeSort (key : α → β) (l : List α) (b : β) :
    (l.mergeSort fun x y => decide (key x ≤ key y)).filter (key · = b) = l.filter (key · = b) := by
  have hsub : (l.filter (key · = b)).Sublist (l.mergeSort fun x y => decide (key x ≤ key y)) := by
    refine List.sublist_mergeSort (fun x y z => by simpa using le_trans)
      (fun x y => by simpa using le_total (key x) (key y)) ?_ List.filter_sublist
    refine List.pairwise_of_forall_mem_list fun x hx y hy => ?_
    simp only [List.mem_filter, decide_eq_true_eq] at hx hy
    simp [hx.2, hy.2]
  have hall := hsub.filter (key · = b)
  rw [List.filter_filter] at hall
  simp only [Bool.and_self] at hall
  exact (hall.eq_of_length ((List.mergeSort_perm l _).filter _).length_eq.symm).symm

theorem mem_of_filter_key_eq {l l' : List α}
    (h : ∀ b, l.filter (key · = b) = l'.filter (key · = b)) {x : α} (hx : x ∈ l) : x ∈ l' := by
  have hfilter : x ∈ l.filter (key · = key x) := by simpa using hx
  rw [h] at hfilter
  exact (List.mem_filter.1 hfilter).1

/-- The first member of a list in the order of a key has the least key. -/
theorem key_le_of_pairwise {x y : α} {l : List α}
    (h : (x :: l).Pairwise fun x y => key x ≤ key y) (hy : y ∈ x :: l) : key x ≤ key y := by
  rcases List.mem_cons.1 hy with rfl | hy
  · exact le_rfl
  · exact (List.pairwise_cons.1 h).1 y hy

/-- Two lists in the order of a key are the same if they have the same members of each key, in the
same order. -/
theorem eq_of_filter_key_eq {l l' : List α} (h : l.Pairwise fun x y => key x ≤ key y)
    (h' : l'.Pairwise fun x y => key x ≤ key y)
    (heq : ∀ b, l.filter (key · = b) = l'.filter (key · = b)) : l = l' := by
  induction l generalizing l' with
  | nil =>
    refine (List.eq_nil_iff_forall_not_mem.2 fun x hx => ?_).symm
    exact List.not_mem_nil (mem_of_filter_key_eq (fun b => (heq b).symm) hx)
  | cons x l ih =>
    cases l' with
    | nil => exact absurd (mem_of_filter_key_eq heq List.mem_cons_self) List.not_mem_nil
    | cons y l' =>
      have hkey : key x = key y :=
        le_antisymm
          (key_le_of_pairwise h (mem_of_filter_key_eq (fun b => (heq b).symm) List.mem_cons_self))
          (key_le_of_pairwise h' (mem_of_filter_key_eq heq List.mem_cons_self))
      have hheads := heq (key y)
      rw [List.filter_cons_of_pos (by simpa using hkey), List.filter_cons_of_pos (by simp)] at hheads
      obtain ⟨rfl, -⟩ := List.cons.inj hheads
      refine congrArg _ (ih h.of_cons h'.of_cons fun b => ?_)
      have hb := heq b
      simp only [List.filter_cons] at hb
      split at hb
      · exact (List.cons.inj hb).2
      · exact hb

end Key

/-! ## The groups -/

namespace GoText

/-- Imports arranged in two groups: those of the standard library and all others, each in the order
of the paths, where the imports of one path keep their order. -/
structure Regrouped (is standard external : List GoImport) : Prop where
  perm : (standard ++ external).Perm is
  isStandard : ∀ i ∈ standard, i.isStandard
  isExternal : ∀ i ∈ external, ¬i.isStandard
  standardOrder : standard.Pairwise fun i j => i.path ≤ j.path
  externalOrder : external.Pairwise fun i j => i.path ≤ j.path
  stable : ∀ path, (standard ++ external).filter (·.path = path) = is.filter (·.path = path)

section Regrouped

variable {is js standard external standard' external' : List GoImport}

/-- The imports of one path are in one group. -/
theorem filter_path_groups (is : List GoImport) (path : String) :
    (is.filter (·.isStandard)).filter (·.path = path) ++
      (is.filter fun i => !i.isStandard).filter (·.path = path) = is.filter (·.path = path) := by
  have hgroup : ∀ i ∈ is.filter (·.path = path), i.isStandard = GoImport.isStandard ⟨"", path⟩ := by
    intro i hi
    obtain rfl : i.path = path := by simpa using (List.mem_filter.1 hi).2
    rfl
  rw [List.filter_comm, List.filter_comm _ fun i : GoImport => !i.isStandard]
  generalize is.filter (·.path = path) = group at hgroup ⊢
  cases hpath : GoImport.isStandard ⟨"", path⟩ with
  | true =>
    rw [List.filter_eq_self.2 fun i hi => (hgroup i hi).trans hpath,
      List.filter_eq_nil_iff.2 fun i hi => by simp [hgroup i hi, hpath], List.append_nil]
  | false =>
    rw [List.filter_eq_nil_iff.2 fun i hi => by simp [hgroup i hi, hpath],
      List.filter_eq_self.2 fun i hi => by simp [hgroup i hi, hpath], List.nil_append]

theorem regrouped_byPath (is : List GoImport) :
    Regrouped is (byPath (is.filter (·.isStandard)))
      (byPath (is.filter fun i => !i.isStandard)) where
  perm := ((List.mergeSort_perm _ _).append (List.mergeSort_perm _ _)).trans
    (List.filter_append_perm _ is)
  isStandard i hi := (List.mem_filter.1 (List.mem_mergeSort.1 hi)).2
  isExternal i hi := by simpa using (List.mem_filter.1 (List.mem_mergeSort.1 hi)).2
  standardOrder := pairwise_key_mergeSort GoImport.path _
  externalOrder := pairwise_key_mergeSort GoImport.path _
  stable path := by
    rw [List.filter_append, byPath, byPath, filter_key_mergeSort GoImport.path,
      filter_key_mergeSort GoImport.path, filter_path_groups]

theorem Regrouped.filter_isStandard (h : Regrouped is standard external) :
    (standard ++ external).filter (·.isStandard) = standard := by
  rw [List.filter_append, List.filter_eq_self.2 h.isStandard, List.filter_eq_nil_iff.2 h.isExternal,
    List.append_nil]

theorem Regrouped.filter_isExternal (h : Regrouped is standard external) :
    (standard ++ external).filter (fun i => !i.isStandard) = external := by
  rw [List.filter_append, List.filter_eq_nil_iff.2 fun i hi => by simp [h.isStandard i hi],
    List.filter_eq_self.2 fun i hi => by simpa using h.isExternal i hi, List.nil_append]

theorem Regrouped.filter_standard (h : Regrouped is standard external) (path : String) :
    standard.filter (·.path = path) = (is.filter (·.path = path)).filter (·.isStandard) := by
  rw [← h.stable, List.filter_comm, h.filter_isStandard]

theorem Regrouped.filter_external (h : Regrouped is standard external) (path : String) :
    external.filter (·.path = path) = (is.filter (·.path = path)).filter fun i => !i.isStandard := by
  rw [← h.stable, List.filter_comm, h.filter_isExternal]

/-- There is one way only to arrange imports so. -/
theorem Regrouped.unique (h : Regrouped is standard external)
    (h' : Regrouped is standard' external') : standard = standard' ∧ external = external' :=
  ⟨eq_of_filter_key_eq h.standardOrder h'.standardOrder fun path =>
      (h.filter_standard path).trans (h'.filter_standard path).symm,
    eq_of_filter_key_eq h.externalOrder h'.externalOrder fun path =>
      (h.filter_external path).trans (h'.filter_external path).symm⟩

/-- Where no two imports share a path, their order makes no difference. -/
theorem Regrouped.of_perm (h : Regrouped is standard external) (hperm : js.Perm is)
    (hnodup : (is.map GoImport.path).Nodup) : Regrouped js standard external where
  __ := h
  perm := h.perm.trans hperm.symm
  stable path := by
    have hone {l : List GoImport} (hl : (l.map GoImport.path).Nodup) :
        (l.filter (·.path = path)).Pairwise fun _ _ => False := by
      refine ((List.pairwise_map.1 hl).filter _).imp_of_mem fun {i j} hi hj hne => hne ?_
      simp only [List.mem_filter, decide_eq_true_eq] at hi hj
      rw [hi.2, hj.2]
    rw [h.stable]
    exact (hperm.symm.filter _).eq_of_pairwise (fun _ _ _ _ hfalse => hfalse.elim) (hone hnodup)
      (hone ((hperm.map _).nodup_iff.2 hnodup))

end Regrouped

/-! ## The lines -/

/-- An import as a line of the block. -/
def importRow (i : GoImport) : String :=
  "\t" ++ i.name ++ " " ++ goString i.path

/-- The lines of the block between the first and the last: one for each import, and an empty one
between the groups if neither of them is empty. -/
def importRows (standard external : List GoImport) : List String :=
  standard.map importRow ++ (if standard ≠ [] ∧ external ≠ [] then [""] else [])
    ++ external.map importRow

section Rows

variable {is standard external : List GoImport}

theorem join_importLine (is : List GoImport) :
    String.join (is.map importLine) = lines (is.map importRow) := by
  rw [lines, List.map_map]
  rfl

theorem importBlock_eq_lines (h : Regrouped is standard external) :
    importBlock is = lines ("import (" :: importRows standard external ++ [")"]) := by
  obtain ⟨rfl, rfl⟩ := h.unique (regrouped_byPath is)
  rw [importBlock, join_importLine, join_importLine, importRows]
  generalize byPath (is.filter (·.isStandard)) = standard
  generalize byPath (is.filter fun i => !i.isStandard) = external
  have hblank : (if standard.isEmpty || external.isEmpty then "" else "\n") =
      lines (if standard ≠ [] ∧ external ≠ [] then [""] else []) := by
    cases standard with
    | nil => rfl
    | cons i standard => cases external <;> rfl
  have hfirst : "import (\n" = "import (" ++ "\n" := rfl
  have hlast : ")\n" = ")" ++ "\n" ++ lines [] := rfl
  rw [hblank, hfirst, hlast]
  simp only [List.cons_append, lines_cons, lines_append, String.append_assoc]

/-- Lines are the pieces between the line ends, if none of them has one inside. -/
theorem pieces_lines {ls : List String} (h : ∀ l ∈ ls, '\n' ∉ l.toList) :
    pieces '\n' (lines ls) = ls ++ [""] := by
  induction ls with
  | nil => rfl
  | cons l ls ih =>
    rw [lines_cons, pieces_append rfl, ih fun l' hl' => h l' (List.mem_cons_of_mem _ hl'),
      pieces_of_notMem (h l List.mem_cons_self)]
    rfl

theorem newline_notMem_of_mem_importRows (h : Regrouped is standard external)
    (hnames : ∀ i ∈ is, '\n' ∉ i.name.toList) :
    ∀ row ∈ importRows standard external, '\n' ∉ row.toList := by
  have hrow : ∀ i ∈ standard ++ external, '\n' ∉ (importRow i).toList := by
    intro i hi
    simp [importRow, hnames i (h.perm.mem_iff.1 hi), newline_notMem_goString]
  intro row hmem
  rcases List.mem_append.1 hmem with hmem | hmem
  · rcases List.mem_append.1 hmem with hmem | hmem
    · obtain ⟨i, hi, rfl⟩ := List.mem_map.1 hmem
      exact hrow i (List.mem_append_left _ hi)
    · split at hmem
      · rw [List.mem_singleton.1 hmem]
        simp
      · cases hmem
  · obtain ⟨i, hi, rfl⟩ := List.mem_map.1 hmem
    exact hrow i (List.mem_append_right _ hi)

end Rows

/-- The import block is the lines of the imports arranged in two groups, each import as often as it
is imported, between a first and a last line. If no name of an import has a line end, these are the
lines that the block is read as. Imports in another order are written as the same block, provided
that no two of them share a path. -/
theorem importBlock_regroups (is : List GoImport) :
    (∃ standard external, Regrouped is standard external) ∧
    (∀ standard external, Regrouped is standard external →
      importBlock is = lines ("import (" :: importRows standard external ++ [")"]) ∧
      ((∀ i ∈ is, '\n' ∉ i.name.toList) →
        pieces '\n' (importBlock is) = "import (" :: importRows standard external ++ [")", ""])) ∧
    ∀ js, js.Perm is → (is.map GoImport.path).Nodup → importBlock js = importBlock is := by
  refine ⟨⟨_, _, regrouped_byPath is⟩, fun standard external h => ⟨importBlock_eq_lines h, ?_⟩, ?_⟩
  · intro hnames
    have hrows : ∀ l ∈ "import (" :: importRows standard external ++ [")"], '\n' ∉ l.toList := by
      intro l hl
      rcases List.mem_append.1 hl with hl | hl
      · rcases List.mem_cons.1 hl with rfl | hl
        · simp
        · exact newline_notMem_of_mem_importRows h hnames l hl
      · rw [List.mem_singleton.1 hl]
        simp
    rw [importBlock_eq_lines h, pieces_lines hrows, List.append_assoc]
    rfl
  · intro js hperm hnodup
    have h := regrouped_byPath is
    rw [importBlock_eq_lines h, importBlock_eq_lines (h.of_perm hperm hnodup)]

/-- Imports of both kinds, two of them of one path. -/
def mixedImports : List GoImport :=
  [⟨"grpc", "google.golang.org/grpc"⟩, ⟨"os", "os"⟩, ⟨"calls", "google.golang.org/grpc"⟩,
    ⟨"fmt", "fmt"⟩]

theorem importBlock_regroups_mixed :
    Regrouped mixedImports [⟨"fmt", "fmt"⟩, ⟨"os", "os"⟩]
        [⟨"grpc", "google.golang.org/grpc"⟩, ⟨"calls", "google.golang.org/grpc"⟩] ∧
      pieces '\n' (importBlock mixedImports) =
        ["import (", "\tfmt \"fmt\"", "\tos \"os\"", "", "\tgrpc \"google.golang.org/grpc\"",
          "\tcalls \"google.golang.org/grpc\"", ")", ""] ∧
      importBlock [⟨"fmt", "fmt"⟩, ⟨"grpc", "google.golang.org/grpc"⟩, ⟨"os", "os"⟩] =
        importBlock (mixedImports.eraseIdx 2) := by
  have hgroups : Regrouped mixedImports [⟨"fmt", "fmt"⟩, ⟨"os", "os"⟩]
      [⟨"grpc", "google.golang.org/grpc"⟩, ⟨"calls", "google.golang.org/grpc"⟩] :=
    { perm := by decide
      isStandard := by decide
      isExternal := by decide
      standardOrder := by decide
      externalOrder := by decide
      stable := fun path => by
        by_cases hpath : path ∈ mixedImports.map GoImport.path
        · revert path
          decide
        · have hother : ∀ i ∈ mixedImports, i.path ≠ path := fun i hi hi' =>
            hpath (List.mem_map.2 ⟨i, hi, hi'⟩)
          simp only [mixedImports, List.forall_mem_cons] at hother
          simp [mixedImports, hother] }
  obtain ⟨-, hlines, -⟩ := importBlock_regroups mixedImports
  obtain ⟨-, -, horder⟩ := importBlock_regroups (mixedImports.eraseIdx 2)
  exact ⟨hgroups, ((hlines _ _ hgroups).2 (by decide)).trans (by decide),
    horder _ (by decide) (by decide)⟩

end GoText

end ServiceCli
