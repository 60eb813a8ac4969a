import Mathlib.Data.List.Induction
import ServiceCli.Disk.Basic
import ServiceCli.Proofs.Result
import ServiceCli.Proofs.Text.Cuts

/-!
# Paths and the locations that they lead to

A path is followed name by name (`follow_eq_ok`). A path to a file leads to the directory of the
file, and its last name is that of the file (`exists_directory_of_locate`). So a path that is seen
from a file leads where it leads from the directory of the file, whatever the path of the file was
(`locate_siblingOf`).

The locations that are reached from the root name by name are the rooted ones. If the current
directory is one of them, so is every location that a path leads to (`Rooted.of_locate`), and the
path of such a location leads nowhere else (`Rooted.eq_of_locate_path`).
-/

namespace ServiceCli

open Text

namespace Disk

/-! ## Names -/

theorem follow_eq_ok {d : Disk} {l l' : Location} {name : String} (h : d.follow l name = .ok l') :
    d.node? l = some .directory ∧
      (Path.isHere name ∧ l' = l ∨ name = ".." ∧ l' = l.dropLast ∨
        ¬Path.isHere name ∧ name ≠ ".." ∧ l' = l ++ [name]) := by
  unfold Disk.follow at h
  split at h
  · cases h
  · cases h
  · next hdir =>
    refine ⟨hdir, ?_⟩
    split at h
    · next hn =>
      exact Or.inl ⟨by simpa [Path.isHere] using hn, (Except.ok.inj h).symm⟩
    · next hn =>
      split at h
      · next hup => exact Or.inr (Or.inl ⟨hup, (Except.ok.inj h).symm⟩)
      · next hup =>
        split at h
        · cases h
        · split at h
          · exact Or.inr (Or.inr ⟨by simpa [Path.isHere] using hn, hup, (Except.ok.inj h).symm⟩)
          · cases h

theorem eq_of_follow_here {d : Disk} {l l' : Location} {name : String} (hn : Path.isHere name)
    (h : d.follow l name = .ok l') : d.node? l = some .directory ∧ l' = l := by
  obtain ⟨hdir, ⟨-, rfl⟩ | ⟨rfl, -⟩ | ⟨hnot, -⟩⟩ := follow_eq_ok h
  · exact ⟨hdir, rfl⟩
  · simp [Path.isHere] at hn
  · exact absurd hn hnot

/-- Names at the end of a way that mean the directory itself may be dropped. -/
theorem foldlM_dropHere {d : Disk} {dir : Location} :
    ∀ {names : List String} {l : Location}, names.foldlM d.follow l = .ok dir →
      (names.reverse.dropWhile Path.isHere).reverse.foldlM d.follow l = .ok dir := by
  intro names
  induction names using List.reverseRecOn generalizing dir with
  | nil => exact fun h => h
  | append_singleton names name ih =>
    intro l h
    rw [List.reverse_append, List.reverse_singleton, List.singleton_append]
    by_cases hhere : Path.isHere name
    · rw [List.dropWhile_cons_of_pos hhere]
      obtain ⟨m, hm, hfollow⟩ := foldlM_concat_eq_ok_iff.1 h
      obtain ⟨-, rfl⟩ := eq_of_follow_here hhere hfollow
      exact ih hm
    · rw [List.dropWhile_cons_of_neg hhere]
      simpa using h

/-- The location that a path leads to, seen from a directory. -/
def locateFrom (d : Disk) (dir : Location) (path : String) : Except Fault Location :=
  if path.toList.contains '\x00' then .error .zeroInPath
  else if path = "" then .error .notFound
  else (pieces '/' path).foldlM d.follow (if Path.isAbsolute path then [] else dir)

theorem locate_eq_locateFrom (d : Disk) (path : String) :
    d.locate path = d.locateFrom d.current path := rfl

theorem locateFrom_eq_ok {d : Disk} {dir l : Location} {path : String}
    (h : d.locateFrom dir path = .ok l) :
    '\x00' ∉ path.toList ∧ path ≠ "" ∧
      (pieces '/' path).foldlM d.follow (if Path.isAbsolute path then [] else dir) = .ok l := by
  unfold locateFrom at h
  split at h
  · cases h
  · next hz =>
    split at h
    · cases h
    · next hne => exact ⟨by simpa using hz, hne, h⟩

/-- A path to a file leads to the directory of the file, and its last name is that of the file. -/
theorem exists_directory_of_locate {d : Disk} {path name : String} {place : Location}
    {bytes : List UInt8} (h : d.locate path = .ok place) (hf : d.node? place = some (.file bytes))
    (hn : Path.fileName? path = some name) :
    ∃ names dir, pieces '/' path = names ++ [name] ∧
      names.foldlM d.follow (d.start path) = .ok dir ∧ place = dir ++ [name] := by
  obtain ⟨init, last, hparts⟩ : ∃ init last, pieces '/' path = init ++ [last] := by
    have hne : pieces '/' path ≠ [] := by simp [pieces]
    exact ⟨_, _, (List.dropLast_append_getLast hne).symm⟩
  obtain ⟨-, -, h⟩ := locateFrom_eq_ok h
  rw [hparts, foldlM_concat_eq_ok_iff] at h
  obtain ⟨dir, hinit, hfollow⟩ := h
  unfold Path.fileName? at hn
  rw [hparts, List.reverse_append, List.reverse_singleton, List.singleton_append] at hn
  obtain ⟨hdir, ⟨-, rfl⟩ | ⟨rfl, -⟩ | ⟨hhere, -, rfl⟩⟩ := follow_eq_ok hfollow
  · rw [hdir] at hf
    cases hf
  · simp [Path.isHere] at hn
  · rw [List.dropWhile_cons_of_neg hhere] at hn
    dsimp only at hn
    split at hn
    · cases hn
    · obtain rfl := Option.some.inj hn
      exact ⟨init, dir, hparts, hinit, rfl⟩

/-- No file is at the end of a path whose last name is empty. -/
theorem node?_of_locate_concat_empty {d : Disk} {path : String} {names : List String} {l : Location}
    (hparts : pieces '/' path = names ++ [""]) (h : d.locate path = .ok l) :
    d.node? l = some .directory := by
  obtain ⟨-, -, h⟩ := locateFrom_eq_ok h
  rw [hparts, foldlM_concat_eq_ok_iff] at h
  obtain ⟨m, -, hfollow⟩ := h
  obtain ⟨hdir, rfl⟩ := eq_of_follow_here rfl hfollow
  exact hdir

theorem locate_of_reach {d : Disk} {path : String} {l : Location} (h : d.reach path = .ok l) :
    d.locate path = .ok l := by
  obtain ⟨-, -, hloc⟩ := bind_eq_ok_iff.1 h
  exact hloc

/-- A path that is not too long can be opened exactly if it leads anywhere. -/
theorem reach_eq_locate {d : Disk} {path : String} (h : path.utf8ByteSize ≤ maxPathLength) :
    d.reach path = d.locate path := by
  rw [reach, checkPath, if_neg (Nat.not_lt.2 h)]
  by_cases hz : path.toList.contains '\x00'
  · rw [if_pos hz, locate, if_pos hz]
    rfl
  · rw [if_neg hz]
    rfl

theorem read_eq_ok {d : Disk} {path : String} {bytes : List UInt8} (h : d.read path = .ok bytes) :
    ∃ place, d.locate path = .ok place ∧ d.node? place = some (.file bytes) := by
  obtain ⟨place, hreach, hnode⟩ := bind_eq_ok_iff.1 h
  refine ⟨place, locate_of_reach hreach, ?_⟩
  split at hnode
  · next hf =>
    rw [hf, Except.ok.inj hnode]
  · cases hnode
  · cases hnode

/-! ## Rooted locations -/

end Disk

namespace Location

theorem join_eq_intercalate :
    ∀ l : Location, String.join (l.map ("/" ++ ·)) = String.intercalate "/" ("" :: l)
  | [] => by simp
  | name :: l => by
    rw [List.map_cons, String.join_cons, join_eq_intercalate l]
    cases l <;> simp [String.append_assoc]

theorem path_eq_intercalate {l : Location} (h : l ≠ []) :
    l.path = String.intercalate "/" ("" :: l) := by
  rw [path, if_neg (by simpa using h), join_eq_intercalate]

theorem isAbsolute_path (l : Location) : Path.isAbsolute l.path := by
  cases l <;> simp [path, Path.isAbsolute]

end Location

namespace Disk

/-- A location that is reached from the root name by name. -/
inductive Rooted (d : Disk) : Location → Prop
  | root : Rooted d []
  | inside {l : Location} {name : String} : Rooted d l → d.follow l name = .ok (l ++ [name]) →
    '/' ∉ name.toList → '\x00' ∉ name.toList → Rooted d (l ++ [name])

namespace Rooted

variable {d : Disk} {l l' : Location}

theorem dropLast (h : d.Rooted l) : d.Rooted l.dropLast := by
  cases h with
  | root => exact .root
  | inside hl => rwa [List.dropLast_concat]

theorem follow {name : String} (h : d.Rooted l) (hf : d.follow l name = .ok l')
    (hslash : '/' ∉ name.toList) (hzero : '\x00' ∉ name.toList) : d.Rooted l' := by
  obtain ⟨-, ⟨-, rfl⟩ | ⟨-, rfl⟩ | ⟨-, -, rfl⟩⟩ := follow_eq_ok hf
  · exact h
  · exact h.dropLast
  · exact .inside h hf hslash hzero

theorem foldlM :
    ∀ {names : List String} {l : Location}, d.Rooted l → names.foldlM d.follow l = .ok l' →
      (∀ name ∈ names, '/' ∉ name.toList ∧ '\x00' ∉ name.toList) → d.Rooted l'
  | [], l, h, hf, _ => by
    obtain rfl : l = l' := Except.ok.inj hf
    exact h
  | name :: names, l, h, hf, hnames => by
    rw [List.foldlM_cons, bind_eq_ok_iff] at hf
    obtain ⟨m, hm, hf⟩ := hf
    obtain ⟨hslash, hzero⟩ := hnames name List.mem_cons_self
    exact foldlM (h.follow hm hslash hzero) hf fun n hn => hnames n (List.mem_cons_of_mem _ hn)

/-- A path leads to a rooted location, if it starts at the root or at a rooted directory. -/
theorem of_locate {path : String} (h : d.locate path = .ok l)
    (hcurrent : ¬Path.isAbsolute path → d.Rooted d.current) : d.Rooted l := by
  obtain ⟨hzero, -, h⟩ := locateFrom_eq_ok h
  refine foldlM ?_ h fun name hname =>
    ⟨notMem_of_mem_pieces hname, fun hc => hzero (mem_toList_of_mem_pieces hname hc)⟩
  split
  · exact .root
  · next hrel => exact hcurrent hrel

/-- A location is rooted if the path from the root leads there. -/
theorem of_locate_path (h : d.locate l.path = .ok l) : d.Rooted l :=
  of_locate h fun hrel => absurd l.isAbsolute_path hrel

theorem foldlM_follow (h : d.Rooted l) : l.foldlM d.follow [] = .ok l := by
  induction h with
  | root => rfl
  | inside hl hname _ _ ih =>
    exact foldlM_concat_eq_ok_iff.2 ⟨_, ih, hname⟩

theorem notMem_name (h : d.Rooted l) :
    ∀ name ∈ l, '/' ∉ name.toList ∧ '\x00' ∉ name.toList := by
  induction h with
  | root => simp
  | inside _ _ hslash hzero ih =>
    intro name hname
    rcases List.mem_append.1 hname with hname | hname
    · exact ih name hname
    · rw [List.mem_singleton.1 hname]
      exact ⟨hslash, hzero⟩

theorem pieces_path (h : d.Rooted l) (hne : l ≠ []) : pieces '/' l.path = "" :: l := by
  rw [Location.path_eq_intercalate hne]
  refine pieces_intercalate rfl (by simp) fun name hname => ?_
  rcases List.mem_cons.1 hname with rfl | hname
  · simp
  · exact (h.notMem_name name hname).1

/-- The path of a rooted location leads nowhere else. -/
theorem eq_of_locate_path (h : d.Rooted l) (hp : d.locate l.path = .ok l') : l' = l := by
  obtain ⟨-, -, hp⟩ := locateFrom_eq_ok hp
  rw [if_pos (Location.isAbsolute_path l)] at hp
  by_cases hne : l = []
  · -- The path of the root is one slash, with an empty name on each side.
    subst hne
    have hparts : pieces '/' (Location.path []) = [""] ++ [""] := by decide
    rw [hparts, foldlM_concat_eq_ok_iff] at hp
    obtain ⟨m, hm, hp⟩ := hp
    obtain ⟨-, rfl⟩ := eq_of_follow_here rfl hp
    rw [List.foldlM_cons, bind_eq_ok_iff] at hm
    obtain ⟨m', hm, hp⟩ := hm
    obtain ⟨-, rfl⟩ := eq_of_follow_here rfl hm
    exact (Except.ok.inj hp).symm
  · rw [h.pieces_path hne, List.foldlM_cons, bind_eq_ok_iff] at hp
    obtain ⟨m, hm, hp⟩ := hp
    obtain ⟨-, rfl⟩ := eq_of_follow_here rfl hm
    exact Except.ok.inj (hp.symm.trans h.foldlM_follow)

end Rooted

/-! ## Joined paths -/

/-- A path behind names is followed after these. -/
theorem locateFrom_intercalate_concat {d : Disk} {dir : Location} {names : List String}
    {path : String} (hnames : ∀ name ∈ names, '/' ∉ name.toList ∧ '\x00' ∉ name.toList)
    (hne : path ≠ "") :
    d.locateFrom dir (String.intercalate "/" (names ++ [path])) =
      if path.toList.contains '\x00' then .error .zeroInPath
      else (names ++ pieces '/' path).foldlM d.follow
        (if Path.isAbsolute (String.intercalate "/" (names ++ [path])) then [] else dir) := by
  have hsuffix := suffix_intercalate_concat "/" path names
  have hjoined : String.intercalate "/" (names ++ [path]) ≠ "" := by
    intro he
    rw [he] at hsuffix
    exact hne (by simpa using hsuffix)
  have hzero : '\x00' ∈ (String.intercalate "/" (names ++ [path])).toList
      ↔ '\x00' ∈ path.toList := by
    refine ⟨fun hm => ?_, fun hm => hsuffix.subset hm⟩
    by_contra hnot
    refine notMem_intercalate (by decide) (fun name hname hc => ?_) hm
    rcases List.mem_append.1 hname with hname | hname
    · exact (hnames name hname).2 hc
    · rw [List.mem_singleton.1 hname] at hc
      exact hnot hc
  rw [locateFrom, if_neg hjoined,
    pieces_intercalate_concat rfl path fun name hname => (hnames name hname).1]
  simp only [List.contains_iff_mem, hzero]

/-! ## Paths seen from a file -/

/-- The way to the directory of a file leads there, also as the text of a path has it. -/
theorem foldlM_directoryNames {d : Disk} {path name : String} {names : List String}
    {l dir : Location} (hparts : pieces '/' path = names ++ [name])
    (h : names.foldlM d.follow l = .ok dir) :
    (Path.directoryNames path).foldlM d.follow l = .ok dir := by
  rw [Path.directoryNames, hparts, List.dropLast_concat]
  cases names with
  | nil => exact h
  | cons first names =>
    rw [List.foldlM_cons, bind_eq_ok_iff] at h ⊢
    obtain ⟨m, hm, h⟩ := h
    exact ⟨m, hm, foldlM_dropHere h⟩

theorem directoryNames_subset (path : String) : Path.directoryNames path ⊆ pieces '/' path := by
  unfold Path.directoryNames
  split
  · simp
  · next first names hparts =>
    refine List.Subset.trans ?_ (List.dropLast_subset _)
    rw [hparts]
    refine List.cons_subset_cons _ fun name hname => ?_
    exact List.mem_reverse.1 ((List.dropWhile_sublist _).subset (List.mem_reverse.1 hname))

theorem pieces_beside (path i : String) :
    pieces '/' (String.intercalate "/" (Path.directoryNames path ++ [i]))
      = Path.directoryNames path ++ pieces '/' i :=
  pieces_intercalate_concat rfl i fun _ hname =>
    notMem_of_mem_pieces (directoryNames_subset path hname)

theorem isAbsolute_iff_pieces (path : String) :
    Path.isAbsolute path ↔ ∃ name names, pieces '/' path = "" :: name :: names := by
  rw [Path.isAbsolute, beq_iff_eq, head?_eq_iff_pieces]

/-- A path beside another one starts where that one does. -/
theorem isAbsolute_beside {path i : String} (hi : ¬Path.isAbsolute i) :
    Path.isAbsolute (String.intercalate "/" (Path.directoryNames path ++ [i]))
      = Path.isAbsolute path := by
  rw [Bool.eq_iff_iff, isAbsolute_iff_pieces, isAbsolute_iff_pieces, pieces_beside,
    Path.directoryNames]
  rcases hparts : pieces '/' path with _ | ⟨first, _ | ⟨second, names⟩⟩
  · simpa [← isAbsolute_iff_pieces] using hi
  · simpa [← isAbsolute_iff_pieces] using hi
  · obtain ⟨name, rest, hrest⟩ := List.exists_cons_of_ne_nil
      (l := (((second :: names).dropLast).reverse.dropWhile Path.isHere).reverse ++ pieces '/' i)
      (by simp [pieces])
    simp [hrest]

/-- A path that is seen from a file leads where it leads from the directory of the file. -/
theorem locate_siblingOf {d : Disk} {path i name : String} {place : Location}
    {bytes : List UInt8} (h : d.locate path = .ok place) (hf : d.node? place = some (.file bytes))
    (hn : Path.fileName? path = some name) (hi : i ≠ "") :
    d.locate (Path.siblingOf path i) = d.locateFrom place.dropLast i := by
  obtain ⟨names, dir, hparts, hdir, rfl⟩ := exists_directory_of_locate h hf hn
  obtain ⟨hzero, -, -⟩ := locateFrom_eq_ok h
  rw [List.dropLast_concat, Path.siblingOf, locate_eq_locateFrom]
  by_cases habs : Path.isAbsolute i
  · simp [locateFrom, habs]
  · have hnames : ∀ name ∈ Path.directoryNames path,
        '/' ∉ name.toList ∧ '\x00' ∉ name.toList := by
      intro name hname
      have hmem := directoryNames_subset path hname
      exact ⟨notMem_of_mem_pieces hmem, fun hc => hzero (mem_toList_of_mem_pieces hmem hc)⟩
    have hfold : (Path.directoryNames path ++ pieces '/' i).foldlM d.follow
        (if Path.isAbsolute path then [] else d.current) = (pieces '/' i).foldlM d.follow dir := by
      rw [List.foldlM_append]
      exact congrArg (· >>= fun m => (pieces '/' i).foldlM d.follow m)
        (foldlM_directoryNames hparts hdir)
    rw [if_neg habs, locateFrom_intercalate_concat hnames hi, isAbsolute_beside habs, hfold,
      locateFrom, if_neg hi, if_neg habs]

end Disk

end ServiceCli
