import Mathlib.Data.List.Dedup
import ServiceCli.Tree.LookupLog

/-!
# Remembered lookups

A log is faithful if it holds each of its keys once, with the answer that the tree gives, and has
counted one walk for each (`LookupLog.Faithful`). `LookupLog.noteAll` is the log after some keys
were looked up, written without the computation that looks them up.

`Yields d x a keys` says what a computation comes to: from every faithful log it gives `a`, and
leaves the log in which `keys` were looked up. What is remembered thus has no bearing on `a`.
Steps one after another yield their results with their keys joined (`Yields.bind`), so that a walk
that looks types up again and again is treated field by field.
-/

namespace ServiceCli.Tree

open Proto

namespace LookupLog

/-! ## Faithful logs -/

/-- The keys in the log, in the order of their first lookups. -/
def keys (log : LookupLog) : List String :=
  log.entries.map Prod.fst

/-- What the log says about the tree is so. -/
structure Faithful (roots : List Message) (log : LookupLog) : Prop where
  answer : ∀ {key a}, log.get? key = some a → a = resolve roots key
  nodup : log.keys.Nodup
  searches : log.searches = log.size

theorem faithful_empty (roots : List Message) : Faithful roots {} :=
  ⟨by simp [get?], List.nodup_nil, rfl⟩

theorem isSome_get?_iff {log : LookupLog} {key : String} :
    (log.get? key).isSome ↔ key ∈ log.keys := by
  rw [get?, List.lookup_isSome_iff, keys, List.mem_map]
  constructor
  · rintro ⟨e, he, hk⟩
    exact ⟨e, he, (eq_of_beq hk).symm⟩
  · rintro ⟨e, he, rfl⟩
    exact ⟨e, he, beq_self_eq_true _⟩

theorem get?_eq_none_iff {log : LookupLog} {key : String} :
    log.get? key = none ↔ key ∉ log.keys := by
  rw [← isSome_get?_iff, Option.not_isSome_iff_eq_none]

theorem get?_record (log : LookupLog) (key k : String) (a : Option Site) :
    (log.record key a).get? k = (log.get? k).or (if k = key then some a else none) := by
  rw [get?, record, List.lookup_append, List.lookup_cons, List.lookup_nil]
  by_cases h : k = key
  · simp [get?, h]
  · have hb : (k == key) = false := by simpa using h
    simp [get?, h, hb]

theorem keys_record (log : LookupLog) (key : String) (a : Option Site) :
    (log.record key a).keys = log.keys ++ [key] := by
  simp [keys, record]

/-- To note a key that is not there yet keeps the log faithful. -/
theorem Faithful.record {roots : List Message} {log : LookupLog} (h : log.Faithful roots)
    {key : String} (hk : log.get? key = none) :
    (log.record key (resolve roots key)).Faithful roots where
  answer := by
    intro k a ha
    rw [get?_record, Option.or_eq_some_iff] at ha
    rcases ha with ha | ⟨-, ha⟩
    · exact h.answer ha
    · split at ha
      · next he =>
        rw [he]
        exact (Option.some.inj ha).symm
      · simp at ha
  nodup := by
    rw [keys_record]
    exact List.nodup_append.2 ⟨h.nodup, List.nodup_singleton _,
      fun a ha b hb => by
        rw [List.mem_singleton.1 hb]
        rintro rfl
        exact get?_eq_none_iff.1 hk ha⟩
  searches := by simp [LookupLog.record, size, h.searches]

/-! ## The log after some lookups -/

/-- The log after a key was looked up. -/
def note (roots : List Message) (log : LookupLog) (key : String) : LookupLog :=
  if (log.get? key).isSome then log else log.record key (resolve roots key)

/-- The log after keys were looked up one after another. -/
def noteAll (roots : List Message) (log : LookupLog) (keys : List String) : LookupLog :=
  keys.foldl (note roots) log

theorem noteAll_append (roots : List Message) (log : LookupLog) (ks ls : List String) :
    log.noteAll roots (ks ++ ls) = (log.noteAll roots ks).noteAll roots ls :=
  List.foldl_append

variable {roots : List Message} {log : LookupLog}

theorem Faithful.note (h : log.Faithful roots) (key : String) :
    (log.note roots key).Faithful roots := by
  unfold LookupLog.note
  split
  · exact h
  · next hk => exact h.record (Option.not_isSome_iff_eq_none.1 hk)

theorem Faithful.noteAll (h : log.Faithful roots) (keys : List String) :
    (log.noteAll roots keys).Faithful roots := by
  induction keys generalizing log with
  | nil => exact h
  | cons key keys ih => exact ih (h.note key)

theorem Faithful.get?_note (h : log.Faithful roots) (key k : String) :
    (log.note roots key).get? k = if k = key then some (resolve roots key) else log.get? k := by
  unfold LookupLog.note
  split
  · next hs =>
    obtain ⟨a, ha⟩ := Option.isSome_iff_exists.1 hs
    split
    · next hk => rw [hk, ha, h.answer ha]
    · rfl
  · next hs =>
    rw [get?_record]
    split
    · next hk => rw [hk, Option.not_isSome_iff_eq_none.1 hs, Option.none_or]
    · rw [Option.or_none]

/-- The keys that were looked up are in the log with the answers of the tree, and nothing else
about the log has changed. -/
theorem Faithful.get?_noteAll (h : log.Faithful roots) (keys : List String) (k : String) :
    (log.noteAll roots keys).get? k =
      if k ∈ keys then some (resolve roots k) else log.get? k := by
  induction keys generalizing log with
  | nil => simp [LookupLog.noteAll]
  | cons key keys ih =>
    have hstep : (log.noteAll roots (key :: keys)).get? k
        = ((log.note roots key).noteAll roots keys).get? k := rfl
    rw [hstep, ih (h.note key), h.get?_note]
    by_cases hk : k ∈ keys
    · simp [hk]
    · by_cases he : k = key
      · simp [he]
      · simp [hk, he]

/-- As many keys are in the log as were looked up, each counted once. -/
theorem size_noteAll (roots : List Message) (keys : List String) :
    (noteAll roots {} keys).size = keys.dedup.length := by
  have hf := (faithful_empty roots).noteAll keys
  have hperm : (noteAll roots {} keys).keys.Perm keys.dedup := by
    refine (List.perm_ext_iff_of_nodup hf.nodup (List.nodup_dedup _)).2 fun k => ?_
    rw [← isSome_get?_iff, (faithful_empty roots).get?_noteAll, List.mem_dedup]
    by_cases hk : k ∈ keys <;> simp [hk, get?]
  have hlen := hperm.length_eq
  rwa [LookupLog.keys, List.length_map] at hlen

end LookupLog

/-! ## What a computation comes to -/

/-- From every faithful log, `x` gives `a` and looks up `keys`. -/
def Yields {α : Type} (d : Declarations) (x : Lookup α) (a : α) (keys : List String) : Prop :=
  ∀ log : LookupLog, log.Faithful d.roots → x.run log = (a, log.noteAll d.roots keys)

section Yields

variable {α β : Type} {d : Declarations}

theorem yields_pure (a : α) : Yields d (pure a) a [] := fun _ _ => rfl

theorem Yields.bind {x : Lookup α} {a : α} {ks : List String} (hx : Yields d x a ks)
    {f : α → Lookup β} {b : β} {ls : List String} (hf : Yields d (f a) b ls) :
    Yields d (x >>= f) b (ks ++ ls) := by
  intro log h
  rw [StateT.run_bind, hx log h, LookupLog.noteAll_append]
  exact hf _ (h.noteAll ks)

theorem Yields.map {x : Lookup α} {a : α} {ks : List String} (hx : Yields d x a ks) (g : α → β) :
    Yields d (g <$> x) (g a) ks := by
  intro log h
  rw [StateT.run_map, hx log h]
  rfl

theorem yields_resolveKey (key : String) :
    Yields d (d.resolveKey key) (resolve d.roots key) [key] := by
  intro log h
  have hnote : log.noteAll d.roots [key] = log.note d.roots key := rfl
  rw [hnote, LookupLog.note]
  cases hk : log.get? key with
  | none => simp [StateT.run, Declarations.resolveKey, hk]
  | some a => simp [StateT.run, Declarations.resolveKey, hk, h.answer hk]

theorem yields_resolveReference (ref : String) :
    Yields d (d.resolveReference ref) (d.reference ref) (d.key? ref).toList := by
  unfold Declarations.resolveReference Declarations.reference
  cases d.key? ref with
  | none => exact yields_pure none
  | some key => exact yields_resolveKey key

/-- The key under which the type of a field is looked up, if it is. -/
def Declarations.fieldKeys (d : Declarations) (f : Field) : List String :=
  (f.typeName.bind d.key?).toList

theorem yields_resolveField (f : Field) :
    Yields d (d.resolveField f) (d.field f) (d.fieldKeys f) := by
  unfold Declarations.resolveField Declarations.field Declarations.fieldKeys
  cases f.typeName with
  | none => exact yields_pure none
  | some ref => exact yields_resolveReference ref

/-- The answer is the same from every faithful log as from the empty one. -/
theorem Yields.fst_run {x : Lookup α} {a : α} {ks : List String} (h : Yields d x a ks)
    {log : LookupLog} (hl : log.Faithful d.roots) : (x.run log).1 = a := by
  rw [h log hl]

end Yields

end ServiceCli.Tree
