import ServiceCli.Proofs.Request.BindPaths
import ServiceCli.Proofs.Text.Cuts
import ServiceCli.Proofs.Text.LetterCase

/-!
# When two flags have one name

The name of a flag is made of the fields on its path, in small letters and with hyphens between
them, so two bind paths may have one name (`Clash`). Two different ones part at two fields of one
message (`exists_fork`), and what comes before these is the same in both names. Nothing but such a
clash makes two flags of a request have one name (`nodup_flagNames_flagsOf_iff`).

Where no Go name has a hyphen, the fields can be told from the name. Two paths then clash only if
their fields have the same names but for the case of letters, one by one (`clash_iff_caseClash`).
-/

namespace ServiceCli.Request

open Proto Text ServiceCli.Tree

/-! ## The names of flags -/

/-- What the fields along a path are called in the name of a flag. -/
def flagWords (steps : FieldSteps) : List String :=
  steps.map fun step => lowered step.1.goName

/-- What a path adds to the beginning of a flag name. -/
def flagText (steps : FieldSteps) : String :=
  String.intercalate "-" (flagWords steps)

/-- Two bind paths of a request have the fields `before` in common. One goes on with `a` and the
other one with `b`, another field of the same message. -/
structure Fork (d : Declarations) (s : Site) (before : FieldSteps) (a b : Field × Nat)
    (after after' : FieldSteps) : Prop where
  left : BindPath d s (before ++ a :: after)
  right : BindPath d s (before ++ b :: after')
  index_ne : a.2 ≠ b.2

/-- Two bind paths of a request have one flag name: from where they part, they give one text. -/
def Clash (d : Declarations) (s : Site) : Prop :=
  ∃ before a b after after', Fork d s before a b after after' ∧
    flagText (a :: after) = flagText (b :: after')

/-- Two bind paths part at fields of different Go names, and from there on they have the same
names in small letters, field by field. -/
def CaseClash (d : Declarations) (s : Site) : Prop :=
  ∃ before a b after after', Fork d s before a b after after' ∧ a.1.goName ≠ b.1.goName ∧
    flagWords (a :: after) = flagWords (b :: after')

/-- No message has two fields of one Go name, nor two whose names differ in case alone. -/
def CaseDistinctFields (d : Declarations) : Prop :=
  ∀ s ∈ sites d.roots, (s.message.fields.map fun f => lowered f.goName).Nodup

/-- No field has a hyphen in its Go name. -/
def HyphenFree (d : Declarations) : Prop :=
  ∀ s ∈ sites d.roots, ∀ f ∈ s.message.fields, '-' ∉ f.goName.toList

section Names

variable {d : Declarations} {s : Site}

theorem flagName?_of_boundFlag {path lead help : String} {steps : FieldSteps} {flag : Flag}
    (h : boundFlag path lead help steps = some flag) :
    flag.flagName? = some (lead ++ flagText steps) := by
  obtain ⟨last, -, hlast⟩ := Option.bind_eq_some_iff.1 h
  obtain ⟨kind, -, rfl⟩ := Option.map_eq_some_iff.1 hlast
  rfl

theorem filterMap_flagName?_filter (flags : List Flag) :
    (flags.filter Flag.isBind).filterMap Flag.flagName? = flags.filterMap Flag.flagName? := by
  rw [List.filterMap_filter]
  refine List.filterMap_congr fun flag _ => ?_
  cases flag <;> rfl

/-- The names of the flags of a message are those of the paths that the walk takes. -/
theorem flagNames_flagsOf (d : Declarations) (help : String) (room : Nat) (p : Place) (s : Site) :
    (flagsOf d help room p s).filterMap Flag.flagName?
      = (pathsOf d room p.active s).map fun steps => p.lead ++ flagText steps := by
  have hflags := filter_flagsOf d help room p s
  have hbound : ∀ steps ∈ pathsOf d room p.active s,
      (boundFlag p.path p.lead help steps).bind Flag.flagName?
        = some (p.lead ++ flagText steps) := by
    intro steps hsteps
    have hmem := List.mem_map_of_mem (f := boundFlag p.path p.lead help) hsteps
    rw [← hflags] at hmem
    obtain ⟨flag, -, hflag⟩ := List.mem_map.1 hmem
    rw [← hflag]
    exact flagName?_of_boundFlag hflag.symm
  calc (flagsOf d help room p s).filterMap Flag.flagName?
      = (((flagsOf d help room p s).filter Flag.isBind).map some).filterMap
          (·.bind Flag.flagName?) := by
        rw [List.filterMap_map]
        exact (filterMap_flagName?_filter _).symm
    _ = (pathsOf d room p.active s).filterMap fun steps => some (p.lead ++ flagText steps) := by
        rw [hflags, List.filterMap_map]
        exact List.filterMap_congr hbound
    _ = _ := by rw [List.filterMap_eq_map']

/-- The walk of a request takes its bind paths. -/
theorem mem_pathsOf_iff_bindPath {steps : FieldSteps} :
    steps ∈ pathsOf d (maxDepth + 1) [s.position] s ↔ BindPath d s steps := by
  rw [mem_pathsOf_iff, BindPath]
  refine exists_congr fun passed => and_congr_right fun _ => ?_
  rw [List.map_cons, List.nodup_cons, List.mem_map]
  grind [maxDepth]

end Names

/-! ## Where paths part -/

section Fork

variable {d : Declarations} {s : Site} {x y : FieldSteps} {p q : List Site}

/-- Two different paths from a message part at two of the fields of one message. -/
theorem exists_fork_of_leads (hx : Leads d s x p) :
    ∀ {y : FieldSteps} {q : List Site}, Leads d s y q → x ≠ y →
      ∃ before a b after after', x = before ++ a :: after ∧ y = before ++ b :: after' ∧
        a.2 ≠ b.2 := by
  induction hx with
  | @last s f j hf hbind =>
    intro y q hy hne
    cases hy with
    | @last _ g k hg _ =>
      refine ⟨[], (f, j), (g, k), [], [], rfl, rfl, ?_⟩
      rintro rfl
      obtain rfl : f = g := Option.some.inj (hf.symm.trans hg)
      exact hne rfl
    | @enter _ _ g k rest _ hg hholds _ _ _ _ =>
      refine ⟨[], (f, j), (g, k), [], rest, rfl, rfl, ?_⟩
      rintro rfl
      obtain rfl : f = g := Option.some.inj (hf.symm.trans hg)
      exact Bool.false_ne_true ((isBindable_eq_false_of_holdsMessage hholds).symm.trans hbind)
  | @enter s t f j rest passed hf hholds _ hfield _ _ ih =>
    intro y q hy hne
    cases hy with
    | @last _ g k hg hbind =>
      refine ⟨[], (f, j), (g, k), rest, [], rfl, rfl, ?_⟩
      rintro rfl
      obtain rfl : f = g := Option.some.inj (hf.symm.trans hg)
      exact Bool.false_ne_true ((isBindable_eq_false_of_holdsMessage hholds).symm.trans hbind)
    | @enter _ t' g k rest' passed' hg _ _ hfield' _ hleads' =>
      by_cases hjk : j = k
      · -- The two paths enter the same message, and they part below it.
        subst hjk
        obtain rfl : f = g := Option.some.inj (hf.symm.trans hg)
        obtain rfl : t = t' := Option.some.inj (hfield.symm.trans hfield')
        obtain ⟨before, a, b, after, after', rfl, rfl, hab⟩ :=
          ih hleads' fun hrest => hne (by rw [hrest])
        exact ⟨(f, j) :: before, a, b, after, after', rfl, rfl, hab⟩
      · exact ⟨[], (f, j), (g, k), rest, rest', rfl, rfl, hjk⟩

/-- Two different bind paths of a request part. -/
theorem exists_fork (hx : BindPath d s x) (hy : BindPath d s y) (hne : x ≠ y) :
    ∃ before a b after after', x = before ++ a :: after ∧ y = before ++ b :: after' ∧
      Fork d s before a b after after' := by
  obtain ⟨p, hp, -⟩ := id hx
  obtain ⟨q, hq, -⟩ := id hy
  obtain ⟨before, a, b, after, after', rfl, rfl, hab⟩ := exists_fork_of_leads hp hq hne
  exact ⟨before, a, b, after, after', rfl, rfl, hx, hy, hab⟩

theorem getElem?_of_leads_cons {a : Field × Nat} (h : Leads d s (a :: x) p) :
    s.message.fields[a.2]? = some a.1 := by
  cases h <;> assumption

/-- A path of several fields enters the message of the first one. -/
theorem exists_leads_of_cons {a : Field × Nat} (h : Leads d s (a :: x) p) (hx : x ≠ []) :
    ∃ t q, d.field a.1 = some t ∧ Leads d t x q := by
  cases h with
  | last => exact absurd rfl hx
  | enter _ _ _ hfield _ hleads => exact ⟨_, _, hfield, hleads⟩

/-- All fields on a path are fields of declarations of the file. -/
theorem exists_site_of_leads (h : Leads d s x p) :
    s ∈ sites d.roots → ∀ step ∈ x, ∃ t ∈ sites d.roots,
      t.message.fields[step.2]? = some step.1 := by
  induction h with
  | last hf _ =>
    intro hs step hstep
    obtain rfl := List.mem_singleton.1 hstep
    exact ⟨_, hs, hf⟩
  | enter hf _ _ hfield _ _ ih =>
    intro hs step hstep
    rcases List.mem_cons.1 hstep with rfl | hstep
    · exact ⟨_, hs, hf⟩
    · exact ih (d.mem_sites_of_field hfield) step hstep

/-- The fields at which two paths part are fields of one message. -/
theorem exists_site_of_fork {a b : Field × Nat} {after after' : FieldSteps} :
    ∀ {before : FieldSteps} {s : Site} {p q : List Site}, s ∈ sites d.roots →
      Leads d s (before ++ a :: after) p → Leads d s (before ++ b :: after') q →
      ∃ t ∈ sites d.roots, t.message.fields[a.2]? = some a.1 ∧ t.message.fields[b.2]? = some b.1
  | [], s, _, _, hs, hx, hy => ⟨s, hs, getElem?_of_leads_cons hx, getElem?_of_leads_cons hy⟩
  | step :: before, s, _, _, hs, hx, hy => by
    obtain ⟨t, p, hfield, hx⟩ := exists_leads_of_cons hx (by simp)
    obtain ⟨t', q, hfield', hy⟩ := exists_leads_of_cons hy (by simp)
    obtain rfl : t = t' := Option.some.inj (hfield.symm.trans hfield')
    exact exists_site_of_fork (d.mem_sites_of_field hfield) hx hy

end Fork

/-! ## Clashes -/

/-- What two paths have in common at the beginning makes no difference. -/
theorem flagText_append_inj {x y : FieldSteps} (hx : x ≠ []) (hy : y ≠ []) :
    ∀ before : FieldSteps,
      flagText (before ++ x) = flagText (before ++ y) ↔ flagText x = flagText y
  | [] => Iff.rfl
  | step :: before => by
    have hcons {z : FieldSteps} (hz : z ≠ []) : flagText (step :: before ++ z)
        = lowered step.1.goName ++ "-" ++ flagText (before ++ z) :=
      String.intercalate_cons_of_ne_nil (by simp [hz])
    rw [hcons hx, hcons hy, String.append_right_inj]
    exact flagText_append_inj hx hy before

/-- Names without hyphens are told from one another in the name of a flag. -/
theorem flagText_inj {x y : FieldSteps} (hx : x ≠ []) (hy : y ≠ [])
    (hyphen : ∀ step ∈ x ++ y, '-' ∉ step.1.goName.toList) :
    flagText x = flagText y ↔ flagWords x = flagWords y := by
  refine ⟨fun h => ?_, fun h => congrArg (String.intercalate "-") h⟩
  have hpieces {z : FieldSteps} (hne : z ≠ []) (hz : ∀ step ∈ z, '-' ∉ step.1.goName.toList) :
      pieces '-' (flagText z) = flagWords z := by
    refine pieces_intercalate (by decide) (by simpa [flagWords] using hne) fun word hword => ?_
    obtain ⟨step, hstep, rfl⟩ := List.mem_map.1 hword
    exact notMem_lowered (by decide) (hz step hstep)
  rw [← hpieces hx fun step hstep => hyphen step (List.mem_append_left _ hstep),
    ← hpieces hy fun step hstep => hyphen step (List.mem_append_right _ hstep), h]

/-- Where the fields of a message have different names, a field is told by its name. -/
theorem index_eq_of_nodup {fields : List Field} {name : Field → String} {a b : Field × Nat}
    (h : (fields.map name).Nodup) (ha : fields[a.2]? = some a.1) (hb : fields[b.2]? = some b.1)
    (hname : name a.1 = name b.1) : a.2 = b.2 := by
  refine (List.getElem?_inj ?_ h).1 ?_
  · rw [List.length_map]
    exact (List.getElem?_eq_some_iff.1 ha).1
  · rw [List.getElem?_map, List.getElem?_map, ha, hb, Option.map_some, Option.map_some, hname]

section Clash

variable {d : Declarations} {s : Site}

theorem CaseDistinctFields.distinctFields (h : CaseDistinctFields d) : DistinctFields d := by
  intro t ht
  have hlowered := h t ht
  rw [← Function.comp_def lowered Field.goName, ← List.map_map] at hlowered
  exact hlowered.of_map

/-- Two flags of a request have one name exactly if two of its bind paths clash. -/
theorem nodup_flagNames_flagsOf_iff (help path lead : String) :
    ((flagsOf d help (maxDepth + 1) ⟨path, lead, [s.position]⟩ s).filterMap Flag.flagName?).Nodup
      ↔ ¬Clash d s := by
  have hpaths : (pathsOf d (maxDepth + 1) [s.position] s).Nodup := by
    refine (pairwise_pathsOf _ _ _).imp fun {x y} hlt heq => ?_
    rw [heq] at hlt
    exact List.lt_irrefl _ hlt
  rw [flagNames_flagsOf, List.nodup_map_iff_inj_on hpaths]
  constructor
  · rintro hinj ⟨before, a, b, after, after', hfork, htext⟩
    have heq := hinj _ (mem_pathsOf_iff_bindPath.2 hfork.left) _
      (mem_pathsOf_iff_bindPath.2 hfork.right)
      (by rw [(flagText_append_inj (by simp) (by simp) before).2 htext])
    exact hfork.index_ne (by rw [(List.cons.inj (List.append_cancel_left heq)).1])
  · intro hclash x hx y hy htext
    by_contra hne
    obtain ⟨before, a, b, after, after', rfl, rfl, hfork⟩ :=
      exists_fork (mem_pathsOf_iff_bindPath.1 hx) (mem_pathsOf_iff_bindPath.1 hy) hne
    have hafter := (flagText_append_inj (by simp) (by simp) before).1
      ((String.append_right_inj _).1 htext)
    exact hclash ⟨before, a, b, after, after', hfork, hafter⟩

/-- Where Go names have no hyphens and differ within a message, nothing but the case of letters
makes two bind paths clash. -/
theorem clash_iff_caseClash (hs : s ∈ sites d.roots) (hfields : DistinctFields d)
    (hyphen : HyphenFree d) : Clash d s ↔ CaseClash d s := by
  refine exists_congr fun before => exists_congr fun a => exists_congr fun b =>
    exists_congr fun after => exists_congr fun after' => and_congr_right fun hfork => ?_
  obtain ⟨⟨p, hx, -⟩, ⟨q, hy, -⟩, hab⟩ := hfork
  have hplain {before after : FieldSteps} {a : Field × Nat} {p : List Site}
      (h : Leads d s (before ++ a :: after) p) :
      ∀ step ∈ a :: after, '-' ∉ step.1.goName.toList := by
    intro step hstep
    obtain ⟨t, ht, hstep⟩ := exists_site_of_leads h hs step (List.mem_append_right _ hstep)
    exact hyphen t ht step.1 (List.mem_of_getElem? hstep)
  rw [flagText_inj (by simp) (by simp) fun step hstep =>
    (List.mem_append.1 hstep).elim (hplain hx step) (hplain hy step)]
  refine ⟨fun hwords => ⟨fun hname => hab ?_, hwords⟩, And.right⟩
  -- One message does not have two fields of one Go name.
  obtain ⟨t, ht, hat, hbt⟩ := exists_site_of_fork hs hx hy
  exact index_eq_of_nodup (hfields t ht) hat hbt hname

/-- Fields whose names differ in small letters too make no paths clash. -/
theorem not_caseClash (hs : s ∈ sites d.roots) (hfields : CaseDistinctFields d) :
    ¬CaseClash d s := by
  rintro ⟨before, a, b, after, after', ⟨⟨p, hx, -⟩, ⟨q, hy, -⟩, hab⟩, -, hwords⟩
  obtain ⟨t, ht, hat, hbt⟩ := exists_site_of_fork hs hx hy
  exact hab (index_eq_of_nodup (hfields t ht) hat hbt (List.cons.inj hwords).1)

end Clash

end ServiceCli.Request
