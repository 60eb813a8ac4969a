import ServiceCli.Name.Qualified
import ServiceCli.Proofs.Text.Cuts

/-!
# How references are told apart

A reference that starts with a dot does not say where the package in it ends. Below the package of
a file it is read as what follows that package (`relativePath_eq_none_iff`), and apart from that it
is cut at its last dot (`ofReference_spec`). `Separable` lists the conditions under which a file
finds the package that is meant in the reference to a type.
-/

namespace ServiceCli

open Text

/-! ## Qualifiers -/

theorem notMem_aliasOf (package : String) : '.' ∉ (QualifiedName.aliasOf package).toList := by
  unfold QualifiedName.aliasOf
  simp only [String.toList_append, String.toList_ofList, List.mem_append, List.mem_map, not_or]
  constructor
  · rintro ⟨c, -, hc⟩
    split at hc
    · cases hc
    · next hne => exact hne hc
  · decide

theorem length_aliasOf (package : String) :
    (QualifiedName.aliasOf package).length = package.length + 3 := by
  rw [QualifiedName.aliasOf, String.length_append, String.length_ofList, List.length_map,
    String.length_toList]
  rfl

/-- A qualified type tells its qualifier and its name. -/
theorem qualifier_injective {package package' name name' : String}
    (h : QualifiedName.aliasOf package ++ "." ++ name
      = QualifiedName.aliasOf package' ++ "." ++ name') :
    QualifiedName.aliasOf package = QualifiedName.aliasOf package' ∧ name = name' := by
  have hchars := congrArg String.toList h
  simp only [String.toList_append, List.append_assoc] at hchars
  obtain ⟨halias, hname⟩ := cut_injective (notMem_aliasOf package) (notMem_aliasOf package') hchars
  exact ⟨String.toList_injective halias, String.toList_injective hname⟩

/-! ## References -/

/-- A file of the package `own` reads the reference to the type of these names in `package` as one
into that package. -/
structure Separable (own package : String) (names : List String) : Prop where
  /-- In a file without a package every reference is one into the package of the file. -/
  own_ne : own ≠ ""
  not_below : ∀ rest, package ≠ own ++ "." ++ rest
  /-- The dots in front of a reference are dropped together. -/
  not_lead : ∀ rest, package ≠ "." ++ rest
  /-- The reference is cut at its last dot. -/
  single : ∃ name, names = [name] ∧ '.' ∉ name.toList

/-- The reference to the type of these names in a package. -/
def typeReference (package : String) (names : List String) : String :=
  "." ++ (package ++ "." ++ String.intercalate "." names)

/-- A reference with a leading dot has no path below a package that it does not start with, or that
it ends with. -/
theorem relativePath_eq_none_iff {own qualified : String} :
    relativePath own ("." ++ qualified) = none ↔
      (own = "" → qualified = "") ∧
        (own ≠ "" → ∀ rest, qualified = own ++ "." ++ rest → rest = "") := by
  rw [relativePath, Option.bind_eq_none_iff, relativePart, afterLead_eq_some_iff.2 rfl]
  dsimp only
  split
  · next hown => simp [hown]
  · next hown =>
    simp only [hown, false_implies, ne_eq, not_false_eq_true, true_implies, true_and,
      Option.bind_eq_some_iff, afterLead_eq_some_iff, ite_eq_left_iff, reduceCtorEq, imp_false,
      not_not]
    constructor
    · rintro h rest rfl
      exact h rest ⟨_, String.append_assoc, rfl⟩
    · rintro h rest ⟨part, rfl, rfl⟩
      exact h rest String.append_assoc.symm

section Separable

variable {own package : String} {names : List String}

/-- A separable reference has no path below the package of the file. -/
theorem Separable.relativePath_eq_none (h : Separable own package names) (hother : package ≠ own) :
    relativePath own (typeReference package names) = none := by
  obtain ⟨name, rfl, hname⟩ := h.single
  refine relativePath_eq_none_iff.2 ⟨fun hown => absurd hown h.own_ne, fun _ rest heq => ?_⟩
  exfalso
  rw [String.intercalate_singleton] at heq
  have hchars : package.toList ++ '.' :: name.toList = own.toList ++ '.' :: rest.toList := by
    simpa using congrArg String.toList heq
  -- The first dot after the package of the file is in the name, or in the package before it.
  rcases List.append_eq_append_iff.1 hchars with ⟨cs, hown, hrest⟩ | ⟨cs, hpackage, hrest⟩
  · cases cs with
    | nil => exact hother (String.toList_injective (by simpa using hown.symm))
    | cons c cs =>
      obtain ⟨-, hname'⟩ := List.cons.inj hrest
      exact hname (by simp [hname'])
  · cases cs with
    | nil => exact hother (String.toList_injective (by simpa using hpackage))
    | cons c cs =>
      obtain ⟨rfl, -⟩ := List.cons.inj hrest
      exact h.not_below (String.ofList cs) (String.toList_injective (by simpa using hpackage))

/-- What has no path below the package of a file is not in a package below it. -/
theorem of_relativePath_eq_none (h : relativePath own (typeReference package names) = none) :
    own ≠ "" ∧ ∀ rest, package ≠ own ++ "." ++ rest := by
  obtain ⟨hempty, hbelow⟩ := relativePath_eq_none_iff.1 h
  have hown : own ≠ "" := by
    intro hown
    have hnil := hempty hown
    simp at hnil
  refine ⟨hown, ?_⟩
  rintro rest rfl
  have hnil := hbelow hown (rest ++ "." ++ String.intercalate "." names)
    (by simp only [String.append_assoc])
  simp at hnil

/-! ## Where a reference is cut -/

/-- A reference is cut at its last dot once the dots in front are dropped. -/
theorem ofReference_spec (ref : String) :
    (ref.toList.dropWhile (· == '.') = (QualifiedName.ofReference ref).package.toList
        ++ '.' :: (QualifiedName.ofReference ref).typeName.toList ∧
      '.' ∉ (QualifiedName.ofReference ref).typeName.toList) ∨
    (QualifiedName.ofReference ref).package = "" ∧
      (QualifiedName.ofReference ref).typeName.toList = ref.toList.dropWhile (· == '.') := by
  unfold QualifiedName.ofReference
  dsimp only
  split
  · next package name hcut =>
    obtain ⟨hbare, hname⟩ := cutLast_eq_some_iff.1 hcut
    rw [String.toList_ofList] at hbare
    exact Or.inl ⟨hbare, hname⟩
  · exact Or.inr ⟨rfl, String.toList_ofList⟩

/-- Without the dots in front, a reference starts with its package exactly if the package starts
with no dot. -/
theorem dropWhile_typeReference (hp : package ≠ "") :
    (typeReference package names).toList.dropWhile (· == '.')
        = package.toList ++ '.' :: (String.intercalate "." names).toList ↔
      ∀ rest, package ≠ "." ++ rest := by
  have hchars : (typeReference package names).toList.dropWhile (· == '.')
      = (package.toList ++ '.' :: (String.intercalate "." names).toList).dropWhile (· == '.') := by
    simp [typeReference]
  rw [hchars]
  cases hc : package.toList with
  | nil => exact absurd (String.toList_injective (by simpa using hc)) hp
  | cons c cs =>
    constructor
    · rintro hdrop rest rfl
      obtain ⟨rfl, -⟩ : '.' = c ∧ rest.toList = cs := by simpa using hc
      have hlen := congrArg List.length hdrop
      have hle := (List.dropWhile_suffix (l := cs ++ '.' :: (String.intercalate "." names).toList)
        (· == '.')).length_le
      rw [List.cons_append, List.dropWhile_cons_of_pos (by simp), List.length_cons] at hlen
      omega
    · intro hlead
      have hne : c ≠ '.' := by
        rintro rfl
        exact hlead (String.ofList cs) (String.toList_injective (by simpa using hc))
      rw [List.cons_append, List.dropWhile_cons_of_neg (by simpa using hne)]

theorem ofReference_typeReference {name : String} (hp : package ≠ "")
    (hlead : ∀ rest, package ≠ "." ++ rest) (hname : '.' ∉ name.toList) :
    QualifiedName.ofReference (typeReference package [name]) = ⟨package, name⟩ := by
  have hbare : (typeReference package [name]).toList.dropWhile (· == '.')
      = package.toList ++ '.' :: name.toList := by
    rw [(dropWhile_typeReference hp).2 hlead, String.intercalate_singleton]
  have hcut : cutLast '.' (String.ofList (package.toList ++ '.' :: name.toList))
      = some (package, name) := cutLast_eq_some_iff.2 ⟨String.toList_ofList, hname⟩
  unfold QualifiedName.ofReference
  dsimp only
  rw [hbare, hcut]

end Separable

end ServiceCli
