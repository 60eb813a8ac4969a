import ServiceCli.Proofs.Load.Collected
import ServiceCli.Proofs.Load.Consistent

/-!
# The order of the files

The files of a schema are added when its imports are loaded, so the places of schemas are finished
one after another. An import may be passed over because its place was noted before, and it need not
be finished then if it is one of the schemas on whose behalf it is loaded. Where no schema imports
itself through others (`Acyclic`), this does not happen: whatever is noted and not finished leads to
the place that is loaded next (`LeadsTo`). So each place is finished after those of its imports
(`Ordered`), and the files are those of the schemas in this order, each where it is declared first
(`imports_first`).

The imports of a schema are those that are found when it is read (`FindsAt`). If no path is too long
to be opened, they are the ones that it denotes (`findsAt_iff_imports`).
-/

namespace ServiceCli.Load

open Proto Relation

/-! ## First occurrences -/

section FirstOccurrences

variable {α : Type} [DecidableEq α] {as bs : List α}

theorem eraseDups_concat (as : List α) (a : α) :
    (as ++ [a]).eraseDups = if a ∈ as then as.eraseDups else as.eraseDups ++ [a] := by
  rw [List.eraseDups_append, List.removeAll]
  split
  · next hin => simp [hin]
  · next hnew => simp [hnew, List.eraseDups_cons]

theorem eraseDups_filter (p : α → Bool) (as : List α) :
    (as.filter p).eraseDups = as.eraseDups.filter p := by
  induction as using List.reverseRecOn with
  | nil => rfl
  | append_singleton as a ih =>
    rw [List.filter_append, eraseDups_concat]
    by_cases ha : p a
    · rw [List.filter_cons_of_pos ha, List.filter_nil, eraseDups_concat, ih]
      by_cases hin : a ∈ as <;> simp [hin, ha]
    · rw [List.filter_cons_of_neg ha, List.filter_nil, List.append_nil, ih]
      split <;> simp [ha]

/-- What comes first in a row of items and what comes first after it, as far as it is new. -/
theorem sublist_eraseDups_append {cs ds : List α} (hc : cs.Sublist as.eraseDups)
    (hd : ds.Sublist bs.eraseDups) (hnew : ∀ d ∈ ds, d ∉ as) :
    (cs ++ ds).Sublist (as ++ bs).eraseDups := by
  have hkept : ds.filter (fun d => !as.elem d) = ds :=
    List.filter_eq_self.2 fun d hin => by simpa using hnew d hin
  rw [List.eraseDups_append, List.removeAll, eraseDups_filter, ← hkept]
  exact hc.append (hd.filter _)

end FirstOccurrences

/-- Files that are added without a conflict stand where they come first. -/
theorem files_of_forM_addFile {n : Loader} :
    ∀ {fs gs : List File} {l : Loader}, l.files = gs.eraseDups →
      (fs.forM addFile).run.run l = (.ok (), n) → n.files = (gs ++ fs).eraseDups
  | [], gs, l, hl, h => by
    obtain rfl : l = n := (Prod.mk.inj h).2
    rw [hl, List.append_nil]
  | f :: fs, gs, l, hl, h => by
    obtain ⟨⟨⟩, m, hf, hfs⟩ := run_bind_ok_iff.1 h
    have hm : m.files = (gs ++ [f]).eraseDups := by
      rw [run_addFile] at hf
      rw [eraseDups_concat, ← hl]
      split at hf
      · next g hfind =>
        split at hf
        · next heq =>
          obtain rfl := (Prod.mk.inj hf).2
          have hin : f ∈ gs := List.mem_eraseDups.1 (hl ▸ heq ▸ List.mem_of_find?_eq_some hfind)
          rw [if_pos hin]
        · cases hf
      · next hfind =>
        obtain rfl := (Prod.mk.inj hf).2
        have hnew : f ∉ gs := fun hin => by
          simpa using List.find?_eq_none.1 hfind f (hl ▸ List.mem_eraseDups.2 hin)
        rw [if_neg hnew]
    rw [files_of_forM_addFile hm hfs, List.append_assoc, List.singleton_append]

/-- Names to generate stand where they come first. -/
theorem targets_of_forM_addTarget {n : Loader} :
    ∀ {names gs : List String} {l : Loader}, l.targets = gs.eraseDups →
      (names.forM addTarget).run.run l = (.ok (), n) → n.targets = (gs ++ names).eraseDups
  | [], gs, l, hl, h => by
    obtain rfl : l = n := (Prod.mk.inj h).2
    rw [hl, List.append_nil]
  | name :: names, gs, l, hl, h => by
    obtain ⟨⟨⟩, m, hname, hnames⟩ := run_bind_ok_iff.1 h
    have hm : m.targets = (gs ++ [name]).eraseDups := by
      rw [run_addTarget] at hname
      obtain rfl := (Prod.mk.inj hname).2
      have hin : name ∈ l.targets ↔ name ∈ gs := by rw [hl, List.mem_eraseDups]
      rw [eraseDups_concat, ← hl]
      by_cases h : name ∈ gs <;> simp [hin, h]
    rw [targets_of_forM_addTarget hm hnames, List.append_assoc, List.singleton_append]

/-! ## Places that are opened -/

/-- A path that leads to the place is opened where that one is given. -/
def OpenedAt (s : Shelf) (given : String) (place : Location) : Prop :=
  ∃ path, Opened s [given] path ∧ s.disk.locate path = .ok place

/-- The schema at a place is opened, and an import in it is found at the other place. -/
def FindsAt (s : Shelf) (given : String) (place other : Location) : Prop :=
  ∃ path next, Opened s [given] path ∧ s.disk.locate path = .ok place ∧ Passes s path next ∧
    s.disk.locate next = .ok other

/-- No schema that is opened finds an import that leads back to it. -/
def Acyclic (s : Shelf) (given : String) : Prop :=
  ∀ place, ¬TransGen (FindsAt s given) place place

/-- No schema that is opened declares a file of the name but the one at the place. -/
def DeclaredOnlyAt (s : Shelf) (given : String) (place : Location) (name : String) : Prop :=
  ∀ other schema, OpenedAt s given other → s.schemaAt? other = some schema →
    name ∈ schema.fileNames → other = place

section Places

variable {s : Shelf} {given : String}

/-- A path along which a schema is read leads to a place. -/
theorem exists_locate_of_passes {path next : String} (h : Passes s path next) :
    ∃ place, s.disk.locate path = .ok place := by
  obtain ⟨schema, names, hr, -⟩ := h
  obtain ⟨place, -, -, -, hp, -⟩ := exists_file_of_read hr
  exact ⟨place, hp⟩

/-- Paths that are passed on lead from place to place. -/
theorem findsAt_of_passes {path next : String} {place other : Location}
    (hopened : Opened s [given] path) (hp : s.disk.locate path = .ok place)
    (h : TransGen (Passes s) path next) (hn : s.disk.locate next = .ok other) :
    TransGen (FindsAt s given) place other := by
  induction h generalizing other with
  | single hpass => exact .single ⟨path, _, hopened, hp, hpass, hn⟩
  | @tail path' next' hpath hpass ih =>
    obtain ⟨mid, hmid⟩ := exists_locate_of_passes hpass
    have hopened' : Opened s [given] path' := by
      rw [opened_singleton_iff] at hopened ⊢
      exact hopened.trans hpath.to_reflTransGen
    exact (ih hmid).tail ⟨path', next', hopened', hmid, hpass, hn⟩

/-- An import is passed on by the path from the root to its place. -/
theorem eq_path_of_passes (hcurrent : s.disk.Rooted s.disk.current) {path next : String}
    {other : Location} (h : Passes s path next) (hn : s.disk.locate next = .ok other) :
    next = other.path := by
  obtain ⟨schema, names, -, hnext⟩ := h
  obtain ⟨i, -, found, hfound, rfl⟩ := mem_importPaths_iff.1 hnext
  obtain ⟨c, -, hc⟩ := exists_candidate_of_findImport hfound
  rw [(Disk.Rooted.of_locate hc fun _ => hcurrent).eq_of_locate_path hn]

/-- Where no schema imports itself, only one of the opened paths leads to a place. -/
theorem Acyclic.opened_unique (hacyclic : Acyclic s given)
    (hcurrent : s.disk.Rooted s.disk.current) {path path' : String} {place : Location}
    (h : Opened s [given] path) (h' : Opened s [given] path')
    (hp : s.disk.locate path = .ok place) (hp' : s.disk.locate path' = .ok place) :
    path = path' := by
  rw [opened_singleton_iff] at h h'
  -- The given path could be taken again only in a circle.
  have hgiven {path : String} (h : TransGen (Passes s) given path)
      (hp : s.disk.locate path = .ok place) : s.disk.locate given ≠ .ok place := fun hg =>
    hacyclic place (findsAt_of_passes (opened_self s given) hg h hp)
  rcases ReflTransGen.cases_tail_iff _ _ _ |>.1 h with rfl | ⟨q, hq, hpass⟩
  · rcases ReflTransGen.cases_tail_iff _ _ _ |>.1 h' with rfl | ⟨q', hq', hpass'⟩
    · rfl
    · exact absurd hp (hgiven (.tail' hq' hpass') hp')
  · rcases ReflTransGen.cases_tail_iff _ _ _ |>.1 h' with rfl | ⟨q', hq', hpass'⟩
    · exact absurd hp' (hgiven (.tail' hq hpass) hp)
    · rw [eq_path_of_passes hcurrent hpass hp, eq_path_of_passes hcurrent hpass' hp']

end Places

/-! ## Imports that are found and imports that are denoted -/

section Denoted

variable {s : Shelf} {given : String} {l : Loader} {place other : Location}

/-- What is opened is loaded. -/
theorem Collected.mem_loaded_of_openedAt (h : Collected s [given] {} l)
    (hcurrent : s.disk.Rooted s.disk.current) (hacyclic : Acyclic s given)
    (hopened : OpenedAt s given place) : place ∈ l.loaded := by
  obtain ⟨path, hopened, hp⟩ := hopened
  rw [opened_singleton_iff] at hopened
  induction hopened generalizing place with
  | refl =>
    obtain ⟨start, hstart, hin⟩ := h.given given (List.mem_singleton.2 rfl)
    rwa [Except.ok.inj (hp.symm.trans hstart)]
  | @tail path' next hpath hpass ih =>
    obtain ⟨place', hp'⟩ := exists_locate_of_passes hpass
    obtain ⟨path'', schema, names, hopened, hp'', hr, -, himports⟩ :=
      h.finished_of_mem (ih hp')
    obtain rfl := hacyclic.opened_unique hcurrent (opened_singleton_iff.2 hpath) hopened hp' hp''
    obtain ⟨schema', names', hr', hnext⟩ := hpass
    obtain ⟨rfl, -⟩ := Prod.mk.inj (Except.ok.inj (hr.symm.trans hr'))
    obtain ⟨i, hi, found, hfound, rfl⟩ := mem_importPaths_iff.1 hnext
    obtain ⟨found', other, hfound', hother, hin⟩ := himports i hi
    obtain rfl := Except.ok.inj (hfound.symm.trans hfound')
    rwa [Except.ok.inj (hp.symm.trans hother)]

/-- Where no import is passed over because of the length of a path, the imports that are found in a
schema are those that it denotes. -/
theorem findsAt_iff_imports (hcurrent : s.disk.Rooted s.disk.current) (hfits : Fits s [given])
    (hacyclic : Acyclic s given) (h : (load s given).run.run {} = (.ok (), l))
    (hopened : OpenedAt s given place) : FindsAt s given place other ↔ Imports s place other := by
  have hcoll : Collected s [given] {} l := collected_of_loadWithin (unread_lt_room s {}) h
  constructor
  · rintro ⟨path, next, hpath, hp, hpass, hother⟩
    have hin : other ∈ l.loaded :=
      hcoll.mem_loaded_of_openedAt hcurrent hacyclic ⟨next, hpath.tail hpass, hother⟩
    obtain ⟨schema, names, hr, hnext⟩ := hpass
    obtain ⟨i, hi, found, hfound, rfl⟩ := mem_importPaths_iff.1 hnext
    exact ⟨schema, (schemaAt?_of_read hr hp).1, i, hi,
      hcoll.denoted?_of_mem hcurrent hfits hpath hp hr hi hfound hother hin⟩
  · rintro ⟨schema, hschema, i, hi, hother⟩
    obtain ⟨path, schema', names, hpath, hp, hr, -, himports⟩ :=
      hcoll.finished_of_mem (hcoll.mem_loaded_of_openedAt hcurrent hacyclic hopened)
    obtain rfl := Option.some.inj ((schemaAt?_of_read hr hp).1.symm.trans hschema)
    obtain ⟨found, other', hfound, hother', hin⟩ := himports i hi
    have hsame := hcoll.denoted?_of_mem hcurrent hfits hpath hp hr hi hfound hother' hin
    obtain rfl := Option.some.inj (hother.symm.trans hsame)
    exact ⟨path, found.path, hpath, hp,
      ⟨schema', names, hr, mem_importPaths_iff.2 ⟨i, hi, found, hfound, rfl⟩⟩, hother'⟩

end Denoted

/-! ## Places in the order in which they are finished -/

/-- The files that the schema at a place declares. -/
def filesAt (s : Shelf) (place : Location) : List File :=
  (s.schemaAt? place).elim [] Schema.files

/-- The files are those of the schemas at the places, in order, and each place comes after those of
its imports. -/
structure Ordered (s : Shelf) (given : String) (l : Loader) (order : List Location) : Prop where
  files : l.files = (order.flatMap (filesAt s)).eraseDups
  opened : ∀ place ∈ order, OpenedAt s given place ∧ ∃ schema, s.schemaAt? place = some schema
  imports : ∀ before place after, order = before ++ place :: after →
    ∀ other, FindsAt s given place other → other ∈ before

/-- What loads along some paths add to the places that are finished. -/
structure Continues (s : Shelf) (given : String) (paths : List String) (l n : Loader)
    (order more : List Location) : Prop where
  ordered : Ordered s given n (order ++ more)
  located : ∀ path ∈ paths, ∀ place, s.disk.locate path = .ok place → place ∈ order ++ more
  loaded : ∀ place ∈ n.loaded, place ∈ l.loaded ∨ place ∈ more

/-- Everything that is noted is finished or leads to the place. -/
def LeadsTo (s : Shelf) (given : String) (l : Loader) (order : List Location) (place : Location) :
    Prop :=
  ∀ p ∈ l.loaded, p ∈ order ∨ TransGen (FindsAt s given) p place

section Order

variable {s : Shelf} {given : String} {l m n : Loader} {order more : List Location}

/-- All that a place leads to comes before it. -/
theorem Ordered.mem_before (h : Ordered s given l order) {before after : List Location}
    {place other : Location} (horder : order = before ++ place :: after)
    (hleads : TransGen (FindsAt s given) place other) : other ∈ before := by
  induction hleads with
  | single hfinds => exact h.imports before place after horder _ hfinds
  | @tail mid other _ hfinds ih =>
    obtain ⟨before', after', rfl⟩ := List.append_of_mem ih
    have hin := h.imports before' mid (after' ++ place :: after) (by simp [horder]) other hfinds
    exact List.mem_append_left _ hin

/-- A place may follow when its imports are there. -/
theorem Ordered.concat (h : Ordered s given l order) {place : Location} {schema : Schema}
    (hopened : OpenedAt s given place) (hschema : s.schemaAt? place = some schema)
    (himports : ∀ other, FindsAt s given place other → other ∈ order)
    (hfiles : n.files = (order.flatMap (filesAt s) ++ schema.files).eraseDups) :
    Ordered s given n (order ++ [place]) where
  files := by
    rw [hfiles, List.flatMap_append, List.flatMap_singleton, filesAt, hschema]
    rfl
  opened p hp := by
    rcases List.mem_append.1 hp with hp | hp
    · exact h.opened p hp
    · rw [List.mem_singleton.1 hp]
      exact ⟨hopened, schema, hschema⟩
  imports before p after horder other hfinds := by
    rcases List.eq_nil_or_concat after with rfl | ⟨after, q, rfl⟩
    · obtain ⟨rfl, hlast⟩ := List.append_inj' horder rfl
      obtain ⟨rfl, -⟩ := List.cons.inj hlast
      exact himports other hfinds
    · have hlast : order ++ [place] = before ++ p :: after ++ [q] := by
        rw [horder, List.concat_eq_append]
        simp
      exact h.imports before p after (List.append_inj' hlast rfl).1 other hfinds

theorem Continues.append {paths paths' : List String} {more' : List Location}
    (h : Continues s given paths l m order more)
    (h' : Continues s given paths' m n (order ++ more) more') :
    Continues s given (paths ++ paths') l n order (more ++ more') where
  ordered := List.append_assoc order more more' ▸ h'.ordered
  located path hpath place hp := by
    rw [← List.append_assoc]
    rcases List.mem_append.1 hpath with hpath | hpath
    · exact List.mem_append_left _ (h.located path hpath place hp)
    · exact h'.located path hpath place hp
  loaded place hp := by
    rcases h'.loaded place hp with hp | hp
    · exact (h.loaded place hp).imp_right (List.mem_append_left _)
    · exact Or.inr (List.mem_append_right _ hp)

/-- Imports that are loaded one after another are finished. -/
theorem exists_continues_of_forM_loadImport {room : Nat} {path : String} {place : Location}
    {schema : Schema} {names : List String} (hopened : Opened s [given] path)
    (hp : s.disk.locate path = .ok place) (hr : s.read path = .ok (schema, names))
    (hload : ∀ {next : String} {l m : Loader} {order : List Location}, unread s l < room →
      Opened s [given] next → Ordered s given l order →
      (∀ other, s.disk.locate next = .ok other → LeadsTo s given l order other) →
      (loadWithin s room false next).run.run l = (.ok (), m) →
      ∃ more, Continues s given [next] l m order more) :
    ∀ {imports : List String} {l n : Loader} {order : List Location}, imports ⊆ schema.imports →
      unread s l < room → Ordered s given l order →
      (∀ p ∈ l.loaded, p ∈ order ∨ ReflTransGen (FindsAt s given) p place) →
      (imports.forM (loadImport s room path)).run.run l = (.ok (), n) →
      ∃ more, Continues s given (importPaths s path imports) l n order more
  | [], l, n, order, _, _, hordered, _, h => by
    obtain rfl : l = n := (Prod.mk.inj h).2
    exact ⟨[], by rwa [List.append_nil], by simp [importPaths], fun _ => Or.inl⟩
  | i :: imports, l, n, order, hsub, hroom, hordered, hleads, h => by
    obtain ⟨⟨⟩, m, hi, hrest⟩ := run_bind_ok_iff.1 h
    obtain ⟨found, hfind, hi⟩ := run_loadImport_ok hi
    obtain ⟨hin, hsub⟩ := List.cons_subset.1 hsub
    have hpass : Passes s path found.path :=
      ⟨schema, names, hr, mem_importPaths_iff.2 ⟨i, hin, found, hfind, rfl⟩⟩
    have hnext (other : Location) (hother : s.disk.locate found.path = .ok other) :
        LeadsTo s given l order other := fun p hl => (hleads p hl).imp_right fun hlead =>
      .tail' hlead ⟨path, found.path, hopened, hp, hpass, hother⟩
    obtain ⟨more, hfirst⟩ := hload hroom (hopened.tail hpass) hordered hnext hi
    have hroom' : unread s m < room :=
      Nat.lt_of_le_of_lt (unread_le_of_subset (collected_of_loadWithin hroom hi).loaded) hroom
    -- What the first import has noted is finished, so no more places are open than before.
    obtain ⟨more', hall⟩ := exists_continues_of_forM_loadImport hopened hp hr hload hsub hroom'
      hfirst.ordered (fun p hl => by
        rcases hfirst.loaded p hl with hl | hl
        · exact (hleads p hl).imp_left (List.mem_append_left _)
        · exact Or.inl (List.mem_append_right _ hl)) hrest
    exact ⟨more ++ more', importPaths_cons hfind imports ▸ hfirst.append hall⟩

/-- A load that succeeds finishes its place, after those of the imports. -/
theorem exists_continues_of_loadWithin (hcurrent : s.disk.Rooted s.disk.current)
    (hacyclic : Acyclic s given) :
    ∀ {room : Nat} {isTarget : Bool} {path : String} {l n : Loader} {order : List Location},
      unread s l < room → Opened s [given] path → Ordered s given l order →
      (∀ place, s.disk.locate path = .ok place → LeadsTo s given l order place) →
      (loadWithin s room isTarget path).run.run l = (.ok (), n) →
      ∃ more, Continues s given [path] l n order more
  | 0, _, _, _, _, _, hroom, _, _, _, _ => absurd hroom (Nat.not_lt_zero _)
  | room + 1, isTarget, path, l, n, order, hroom, hopened, hordered, hleads, h => by
    obtain ⟨place, hp, ⟨hold, rfl⟩ | ⟨hnew, schema, names, hr, hadd⟩⟩ := run_loadWithin_ok h
    · -- The place was noted before. It is no open one, since it would lead to itself.
      have hin : place ∈ order := (hleads place hp place hold).resolve_right (hacyclic place)
      refine ⟨[], by rwa [List.append_nil], fun q hq other hother => ?_, fun _ => Or.inl⟩
      rw [List.mem_singleton.1 hq, hp] at hother
      rwa [← Except.ok.inj hother, List.append_nil]
    · obtain ⟨m, k, himports, hfiles, hloaded, hsame, -⟩ := run_addSchema_ok hadd
      obtain ⟨hschema, bytes, hnode⟩ := schemaAt?_of_read hr hp
      have hnote : unread s { l with loaded := place :: l.loaded } < room :=
        Nat.lt_of_lt_of_le (unread_note_lt hnode hnew) (Nat.le_of_lt_succ hroom)
      obtain ⟨more, hmore⟩ := exists_continues_of_forM_loadImport hopened hp hr
        (fun hroom hopened hordered hleads h =>
          exists_continues_of_loadWithin hcurrent hacyclic hroom hopened hordered hleads h)
        (List.Subset.refl _) hnote ⟨hordered.1, hordered.2, hordered.3⟩ (fun p hl => by
          rcases List.mem_cons.1 hl with rfl | hl
          · exact Or.inr .refl
          · exact (hleads place hp p hl).imp_right TransGen.to_reflTransGen) himports
      have hk : n.loaded = m.loaded := hloaded.trans (loaded_of_forM_addFile hfiles)
      have hconcat : Ordered s given n (order ++ more ++ [place]) := by
        refine hmore.ordered.concat ⟨path, hopened, hp⟩ hschema ?_
          (hsame.trans (files_of_forM_addFile hmore.ordered.files hfiles))
        rintro other ⟨path', next, hopened', hp', ⟨schema', names', hr', hnext⟩, hother⟩
        obtain rfl := hacyclic.opened_unique hcurrent hopened hopened' hp hp'
        obtain ⟨rfl, -⟩ := Prod.mk.inj (Except.ok.inj (hr.symm.trans hr'))
        exact hmore.located next hnext other hother
      refine ⟨more ++ [place], List.append_assoc order more [place] ▸ hconcat, ?_, ?_⟩
      · intro q hq other hother
        rw [List.mem_singleton.1 hq, hp] at hother
        simp [Except.ok.inj hother]
      · intro q hq
        rw [hk] at hq
        rcases hmore.loaded q hq with hq | hq
        · rcases List.mem_cons.1 hq with rfl | hq
          · exact Or.inr (by simp)
          · exact Or.inl hq
        · exact Or.inr (List.mem_append_left _ hq)

end Order

/-! ## One given schema -/

section Load

variable {s : Shelf} {path : String} {l : Loader}

/-- A load that succeeds finishes the places of all schemas that it opens. -/
theorem exists_ordered_of_load (hcurrent : s.disk.Rooted s.disk.current)
    (hacyclic : Acyclic s path) (h : (load s path).run.run {} = (.ok (), l)) :
    ∃ order, Ordered s path l order ∧ ∀ place, OpenedAt s path place → place ∈ order := by
  have hempty : Ordered s path {} [] := ⟨rfl, by simp, by simp⟩
  obtain ⟨order, horder⟩ := exists_continues_of_loadWithin hcurrent hacyclic (unread_lt_room s {})
    (opened_self s path) hempty (fun _ _ _ hp => by cases hp) h
  have hordered : Ordered s path l order := horder.ordered
  refine ⟨order, hordered, ?_⟩
  rintro place ⟨path', hopened, hp⟩
  obtain ⟨start, hstart, -⟩ := load_ok h
  have hin : start ∈ order := horder.located path (List.mem_singleton.2 rfl) start hstart
  rcases reflTransGen_iff_eq_or_transGen.1 (opened_singleton_iff.1 hopened) with rfl | hpasses
  · rwa [Except.ok.inj (hp.symm.trans hstart)]
  · obtain ⟨before, after, hsplit⟩ := List.append_of_mem hin
    have hbefore : place ∈ before := hordered.mem_before hsplit
      (findsAt_of_passes (opened_self s path) hstart hpasses hp)
    rw [hsplit]
    exact List.mem_append_left _ hbefore

/-- The names to generate are those of the given schema. -/
theorem targets_of_load (h : (load s path).run.run {} = (.ok (), l)) :
    ∃ start schema format, s.disk.locate path = .ok start ∧ s.schemaAt? start = some schema ∧
      SchemaFormat.ofPath? path = some format ∧
      l.targets = (format.targets schema).eraseDups := by
  obtain ⟨start, hp, ⟨hold, -⟩ | ⟨-, schema, names, hr, hadd⟩⟩ := run_loadWithin_ok h
  · cases hold
  · obtain ⟨-, -, -, format, -, -, -, hformat, -, -, rfl⟩ := exists_file_of_read hr
    refine ⟨start, schema, format, hp, (schemaAt?_of_read hr hp).1, hformat, ?_⟩
    obtain ⟨⟨⟩, m, himports, hadd⟩ := run_bind_ok_iff.1 hadd
    obtain ⟨⟨⟩, k, hfiles, hnames⟩ := run_bind_ok_iff.1 hadd
    have hk : k.targets = ([] : List String).eraseDups := (kept_targets s).of_addSchema_ok hr
      (fun p => (kept_targets s).keeps_loadWithin _ false p fun ht => by cases ht) himports hfiles
    exact targets_of_forM_addTarget hk hnames

/-- Files are loaded after those of the schemas before which their own is finished. -/
theorem Ordered.sublist_files {order before after : List Location} {place : Location}
    (h : Ordered s path l order) (horder : order = before ++ place :: after)
    (hnew : place ∉ before) (gs fs : List File)
    (hg : gs.Sublist (before.flatMap (filesAt s)).eraseDups)
    (hf : fs.Sublist (filesAt s place).eraseDups)
    (honly : ∀ f ∈ fs, DeclaredOnlyAt s path place f.name) : (gs ++ fs).Sublist l.files := by
  rw [h.files, horder, List.flatMap_append, List.flatMap_cons]
  have hrest : (filesAt s place).eraseDups.Sublist
      (filesAt s place ++ after.flatMap (filesAt s)).eraseDups := by
    rw [List.eraseDups_append]
    exact List.sublist_append_left _ _
  refine sublist_eraseDups_append hg (hf.trans hrest) fun f hmem hin => ?_
  obtain ⟨other, hother, hin⟩ := List.mem_flatMap.1 hin
  have hmem' : other ∈ order := by
    rw [horder]
    exact List.mem_append_left _ hother
  obtain ⟨hopened, schema, hschema⟩ := h.opened other hmem'
  rw [filesAt, hschema] at hin
  have heq : other = place := honly f hmem other schema hopened hschema (List.mem_map_of_mem hin)
  exact hnew (heq ▸ hother)

/-- A schema is given, everything is loaded, and no schema imports itself through others. Then the
files of each schema that is opened are there, under different names. A file that only one of these
schemas declares comes after the files of all schemas that this one imports, itself or through
others, and such files of one schema are in the order in which the schema declares them first. The
names to generate are those of the given schema, in the order of that schema. -/
theorem imports_first (hcurrent : s.disk.locate s.disk.current.path = .ok s.disk.current)
    (h : (load s path).run.run {} = (.ok (), l)) (hacyclic : Acyclic s path) :
    (l.files.map File.name).Nodup ∧
    (∀ place, OpenedAt s path place →
      ∃ schema, s.schemaAt? place = some schema ∧ schema.files ⊆ l.files) ∧
    (∀ place other schema schema', TransGen (FindsAt s path) place other →
      s.schemaAt? place = some schema → s.schemaAt? other = some schema' →
      ∀ g ∈ schema'.files, ∀ f ∈ schema.files, DeclaredOnlyAt s path place f.name →
        [g, f].Sublist l.files) ∧
    (∀ place schema (fs : List File), OpenedAt s path place → s.schemaAt? place = some schema →
      fs.Sublist schema.files.eraseDups → (∀ f ∈ fs, DeclaredOnlyAt s path place f.name) →
      fs.Sublist l.files) ∧
    ∃ start schema format, s.disk.locate path = .ok start ∧ s.schemaAt? start = some schema ∧
      SchemaFormat.ofPath? path = some format ∧
      l.targets = (if format = .descriptorSet then schema.rootNames
        else schema.fileNames).eraseDups := by
  have hrooted : s.disk.Rooted s.disk.current := .of_locate_path hcurrent
  obtain ⟨order, hordered, hall⟩ := exists_ordered_of_load hrooted hacyclic h
  have hfilesAt {place : Location} {schema : Schema} (hschema : s.schemaAt? place = some schema) :
      filesAt s place = schema.files := by
    rw [filesAt, hschema]
    rfl
  refine ⟨?_, ?_, ?_, ?_, ?_⟩
  · have hadvances := advances_load s path {}
    rw [h] at hadvances
    exact (hadvances.consistent consistent_empty).names
  · intro place hopened
    obtain ⟨-, schema, hschema⟩ := hordered.opened place (hall place hopened)
    refine ⟨schema, hschema, fun f hf => ?_⟩
    rw [hordered.files, List.mem_eraseDups, List.mem_flatMap]
    exact ⟨place, hall place hopened, hfilesAt hschema ▸ hf⟩
  · intro place other schema schema' hleads hschema hschema' g hg f hf honly
    obtain ⟨-, ⟨path', next, hopened, hp, -⟩, -⟩ := TransGen.head'_iff.1 hleads
    obtain ⟨before, after, horder, hnew⟩ :=
      List.eq_append_cons_of_mem (hall place ⟨path', hopened, hp⟩)
    have hbefore : g ∈ before.flatMap (filesAt s) :=
      List.mem_flatMap.2 ⟨other, hordered.mem_before horder hleads, hfilesAt hschema' ▸ hg⟩
    refine hordered.sublist_files horder hnew [g] [f] ?_ ?_ (by simpa using honly)
    · exact List.singleton_sublist.2 (List.mem_eraseDups.2 hbefore)
    · exact List.singleton_sublist.2 (List.mem_eraseDups.2 (hfilesAt hschema ▸ hf))
  · intro place schema fs hopened hschema hfs honly
    obtain ⟨before, after, horder, hnew⟩ := List.eq_append_cons_of_mem (hall place hopened)
    exact hordered.sublist_files horder hnew [] fs (List.nil_sublist _) (hfilesAt hschema ▸ hfs)
      honly
  · obtain ⟨start, schema, format, hstart, hschema, hformat, htargets⟩ := targets_of_load h
    refine ⟨start, schema, format, hstart, hschema, hformat, ?_⟩
    rw [htargets]
    cases format <;> rfl

end Load

/-- A rank that falls with every import rules out circles. -/
theorem acyclic_of_rank {s : Shelf} {given : String} (rank : Location → Nat)
    (h : ∀ place other, FindsAt s given place other → rank other < rank place) :
    Acyclic s given := by
  have hfalls {place other : Location} (hleads : TransGen (FindsAt s given) place other) :
      rank other < rank place := by
    induction hleads with
    | single hfinds => exact h _ _ hfinds
    | tail _ hfinds ih => exact (h _ _ hfinds).trans ih
  exact fun place hleads => Nat.lt_irrefl _ (hfalls hleads)

/-- Two schemas that import a third one, of which the second declares its file again. -/
def diamond : Shelf where
  disk.entries :=
    [(["a.json"], .file "[[\"b.json\",\"c.json\"],[[\"a\"]]]".toUTF8.toList),
      (["b.json"], .file "[[\"d.json\"],[[\"b\"]]]".toUTF8.toList),
      (["c.json"], .file "[[\"d.json\"],[[\"d\"],[\"c\"]]]".toUTF8.toList),
      (["d.json"], .file "[[],[[\"d\"]]]".toUTF8.toList)]

theorem mem_of_opened_diamond {path : String} (h : Opened diamond ["a.json"] path) :
    path ∈ ["a.json", "/b.json", "/c.json", "/d.json"] :=
  mem_of_opened (by simp) (by decide +kernel) h

theorem acyclic_diamond : Acyclic diamond "a.json" := by
  refine acyclic_of_rank [["d.json"], ["b.json"], ["c.json"], ["a.json"]].idxOf ?_
  have hall : ∀ path ∈ ["a.json", "/b.json", "/c.json", "/d.json"],
      ∀ place ∈ (diamond.disk.locate path).toOption, ∀ r ∈ (diamond.read path).toOption,
        ∀ next ∈ importPaths diamond path r.1.imports,
          ∀ other ∈ (diamond.disk.locate next).toOption,
            [["d.json"], ["b.json"], ["c.json"], ["a.json"]].idxOf other
              < [["d.json"], ["b.json"], ["c.json"], ["a.json"]].idxOf place := by
    decide +kernel
  rintro place other ⟨path, next, hopened, hp, ⟨schema, names, hr, hnext⟩, hother⟩
  exact hall path (mem_of_opened_diamond hopened) place (by rw [hp]; rfl) (schema, names)
    (by rw [hr]; rfl) next hnext other (by rw [hother]; rfl)

theorem declaredOnlyAt_diamond : DeclaredOnlyAt diamond "a.json" ["c.json"] "c" := by
  have hall : ∀ path ∈ ["a.json", "/b.json", "/c.json", "/d.json"],
      ∀ other ∈ (diamond.disk.locate path).toOption, ∀ schema ∈ diamond.schemaAt? other,
        "c" ∈ schema.fileNames → other = ["c.json"] := by
    decide +kernel
  rintro other schema ⟨path, hopened, hp⟩ hschema hin
  exact hall path (mem_of_opened_diamond hopened) other (by rw [hp]; rfl) schema hschema hin

/-- The file that two of the schemas declare comes before the one that only the latter declares. -/
theorem imports_first_diamond :
    (load diamond "a.json").run.run {}
        = (.ok (), ⟨[["c.json"], ["d.json"], ["b.json"], ["a.json"]],
            [{ name := "d" }, { name := "b" }, { name := "c" }, { name := "a" }], ["a"]⟩) ∧
      [{ name := "d" }, { name := "c" }].Sublist
        [{ name := "d" }, { name := "b" }, { name := "c" }, ({ name := "a" } : File)] := by
  have hload : (load diamond "a.json").run.run {}
      = (.ok (), ⟨[["c.json"], ["d.json"], ["b.json"], ["a.json"]],
          [{ name := "d" }, { name := "b" }, { name := "c" }, { name := "a" }], ["a"]⟩) :=
    of_decide_eq_true (p := @Eq (Except LoadError Unit × Loader) _ _) (by decide +kernel)
  have hfinds : FindsAt diamond "a.json" ["c.json"] ["d.json"] := by
    refine ⟨"/c.json", "/d.json", ⟨"a.json", by simp, .single ?_⟩, by decide +kernel, ?_,
      by decide +kernel⟩
    · exact ⟨⟨["b.json", "c.json"], [{ name := "a" }]⟩, ["a"], by decide +kernel,
        by decide +kernel⟩
    · exact ⟨⟨["d.json"], [{ name := "d" }, { name := "c" }]⟩, ["d", "c"], by decide +kernel,
        by decide +kernel⟩
  obtain ⟨-, -, horder, -⟩ := imports_first (by decide +kernel) hload acyclic_diamond
  refine ⟨hload, ?_⟩
  exact horder ["c.json"] ["d.json"] ⟨["d.json"], [{ name := "d" }, { name := "c" }]⟩
    ⟨[], [{ name := "d" }]⟩ (.single hfinds) (by decide +kernel) (by decide +kernel)
    { name := "d" } (by simp) { name := "c" } (by simp) declaredOnlyAt_diamond

end ServiceCli.Load
