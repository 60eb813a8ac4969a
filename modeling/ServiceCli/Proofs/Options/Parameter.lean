import Mathlib.Data.List.Induction
import Mathlib.Data.List.Nodup
import Mathlib.Data.String.Basic
import ServiceCli.Proofs.Options.Settings
import ServiceCli.Proofs.Result

/-!
# What a parameter means

A setting can be used if its key is known and its value is one for this key (`Acceptable`), and
applying it changes the option of the key and nothing else (`Changes`). So the options hold the last
value of each key (`Holds`), which fixes them (`Holds.ext`): they do not depend on the order of
settings with different keys. The first setting that cannot be used gives the error
(`ofParameter_exact`).
-/

namespace ServiceCli

open Text

/-! ## Tables -/

namespace Table

variable {t t' : Table}

theorem lookup_entry_cons (k k' v : String) (t : Table) :
    List.lookup k ((k', v) :: t) = if k = k' then some v else t.lookup k := by
  rw [List.lookup_cons]
  by_cases h : k = k'
  · simp [h]
  · simp [h, beq_false_of_ne h]

/-- Where each key stands once, what is in a table is found in it. -/
theorem lookup_eq_some_iff_mem {k v : String} :
    ∀ {t : Table}, (t.map Prod.fst).Nodup → (t.lookup k = some v ↔ (k, v) ∈ t)
  | [], _ => by simp
  | (k', v') :: t, h => by
    obtain ⟨hhead, htail⟩ := List.nodup_cons.1 h
    rw [lookup_entry_cons, List.mem_cons, Prod.mk.injEq]
    split
    · next heq =>
      subst heq
      have hnotMem : (k, v) ∉ t := fun hmem => hhead (List.mem_map.2 ⟨_, hmem, rfl⟩)
      simp [hnotMem, eq_comm]
    · next hne => simp [hne, lookup_eq_some_iff_mem htail]

/-- A key is looked up as it was set, and all others as before. -/
theorem lookup_set (key value k : String) :
    ∀ t : Table, (t.set key value).lookup k = if k = key then some value else t.lookup k
  | [] => lookup_entry_cons k key value []
  | (k', v') :: t => by
    rw [set]
    split
    · next heq =>
      subst heq
      rw [lookup_entry_cons, lookup_entry_cons]
      split <;> rfl
    · next hne =>
      split
      · exact lookup_entry_cons _ _ _ _
      · rw [lookup_entry_cons, lookup_entry_cons, lookup_set key value k t]
        split
        · next heq =>
          subst heq
          rw [if_neg hne]
        · rfl

/-- The keys of a table stand in order, each once. -/
def Ordered (t : Table) : Prop :=
  t.Pairwise fun a b => a.1 < b.1

theorem mem_set {key value : String} {e : String × String} :
    ∀ {t : Table}, e ∈ t.set key value → e = (key, value) ∨ e ∈ t
  | [], h => Or.inl (List.mem_singleton.1 h)
  | (k', v') :: t, h => by
    rw [set] at h
    split at h
    · rcases List.mem_cons.1 h with h | h
      · exact Or.inl h
      · exact Or.inr (List.mem_cons_of_mem _ h)
    · split at h
      · exact (List.mem_cons.1 h).imp_right id
      · rcases List.mem_cons.1 h with h | h
        · exact Or.inr (h ▸ List.mem_cons_self)
        · exact (mem_set h).imp_right (List.mem_cons_of_mem _)

theorem Ordered.set (key value : String) : ∀ {t : Table}, Ordered t → Ordered (t.set key value)
  | [], _ => List.pairwise_singleton _ _
  | (k', v') :: t, h => by
    obtain ⟨hhead, htail⟩ := List.pairwise_cons.1 h
    rw [Table.set]
    split
    · next heq =>
      subst heq
      exact List.pairwise_cons.2 ⟨hhead, htail⟩
    · next hne =>
      split
      · next hlt =>
        refine List.pairwise_cons.2 ⟨fun e he => ?_, h⟩
        rcases List.mem_cons.1 he with rfl | he
        · exact hlt
        · exact hlt.trans (hhead e he)
      · next hlt =>
        refine List.pairwise_cons.2 ⟨fun e he => ?_, Ordered.set key value htail⟩
        rcases mem_set he with rfl | he
        · exact lt_of_le_of_ne (not_lt.1 hlt) hne
        · exact hhead e he

theorem Ordered.nodup_keys (h : Ordered t) : (t.map Prod.fst).Nodup :=
  List.pairwise_map.2 (h.imp fun hlt => ne_of_lt hlt)

/-- An ordered table is fixed by what is found in it. -/
theorem Ordered.ext (h : Ordered t) (h' : Ordered t') (heq : ∀ k, t.lookup k = t'.lookup k) :
    t = t' := by
  have hperm : t.Perm t' :=
    (List.perm_ext_iff_of_nodup (List.Nodup.of_map _ h.nodup_keys)
      (List.Nodup.of_map _ h'.nodup_keys)).2 fun e => by
      rw [← lookup_eq_some_iff_mem h.nodup_keys, ← lookup_eq_some_iff_mem h'.nodup_keys, heq]
  exact hperm.eq_of_pairwise (fun a b _ _ hab hba => absurd hba (lt_asymm hab)) h h'

end Table

/-! ## What settings mean -/

namespace Options

/-- The keys that do not start with `M`. -/
def knownKeys : List String :=
  ["plugins", "paths", "import_prefix", "server_addr", "response_format", "timeout",
    "auth_token_type", "help"]

/-- A setting that can be used. -/
def Acceptable (key value : String) : Prop :=
  (∃ file, key = "M" ++ file) ∨
    key ∈ knownKeys ∧ (key = "paths" → value = "import" ∨ value = "source_relative") ∧
      (key = "timeout" → ∃ n, IsSeconds value n)

/-- The error for a setting that cannot be used. -/
def faultOf (key value : String) : OptionsError :=
  if key ∈ knownKeys then .invalidValue key value else .unknownParameter key

/-- The value in the last setting of a key. -/
def lastValue (entries : List (String × String)) (key : String) : Option String :=
  entries.reverse.lookup key

/-- Options that hold the last value of each key, and their defaults where there is none. -/
structure Holds (o : Options) (entries : List (String × String)) : Prop where
  paths : o.paths.name = (lastValue entries "paths").getD ({} : Options).paths.name
  importPrefix : o.importPrefix = (lastValue entries "import_prefix").getD ({} : Options).importPrefix
  importOverrides : ∀ file, o.importOverrides.lookup file = lastValue entries ("M" ++ file)
  ordered : o.importOverrides.Ordered
  serverAddr : o.serverAddr = (lastValue entries "server_addr").getD ({} : Options).serverAddr
  responseFormat :
    o.responseFormat = (lastValue entries "response_format").getD ({} : Options).responseFormat
  timeoutSecs : (lastValue entries "timeout").elim (o.timeoutSecs = ({} : Options).timeoutSecs)
    (IsSeconds · o.timeoutSecs)
  authTokenType :
    o.authTokenType = (lastValue entries "auth_token_type").getD ({} : Options).authTokenType
  helpText : o.helpText = (lastValue entries "help").getD ({} : Options).helpText

/-- What a setting changes: the option of its key and nothing else. -/
structure Changes (o o' : Options) (key value : String) : Prop where
  paths : o'.paths.name = if key = "paths" then value else o.paths.name
  importPrefix : o'.importPrefix = if key = "import_prefix" then value else o.importPrefix
  importOverrides : ∀ file, o'.importOverrides.lookup file =
    if key = "M" ++ file then some value else o.importOverrides.lookup file
  ordered : o.importOverrides.Ordered → o'.importOverrides.Ordered
  serverAddr : o'.serverAddr = if key = "server_addr" then value else o.serverAddr
  responseFormat : o'.responseFormat = if key = "response_format" then value else o.responseFormat
  timeoutSecs : if key = "timeout" then IsSeconds value o'.timeoutSecs
    else o'.timeoutSecs = o.timeoutSecs
  authTokenType : o'.authTokenType = if key = "auth_token_type" then value else o.authTokenType
  helpText : o'.helpText = if key = "help" then value else o.helpText

/-- Applies a setting. -/
def setEntry (o : Options) (e : String × String) : Except OptionsError Options :=
  match afterLead "M" e.1 with
  | some file => .ok { o with importOverrides := o.importOverrides.set file e.2 }
  | none => o.setKey e.1 e.2

theorem ofParameter_eq (parameter : String) :
    ofParameter parameter = ((settings parameter).map settingParts).foldlM setEntry {} := by
  rw [List.foldlM_map]
  rfl

theorem lastValue_concat (entries : List (String × String)) (key value k : String) :
    lastValue (entries ++ [(key, value)]) k = if k = key then some value else lastValue entries k := by
  rw [lastValue, List.reverse_append, List.reverse_singleton, List.singleton_append,
    Table.lookup_entry_cons]
  rfl

variable {o o' : Options} {entries : List (String × String)} {key value : String}

theorem ne_of_mem_knownKeys {file : String} (h : key ∈ knownKeys) : key ≠ "M" ++ file := by
  have hhead : ∀ k ∈ knownKeys, k.toList.head? ≠ some 'M' := by decide
  rintro rfl
  exact hhead _ h (by simp)

theorem name_of_ofName? {name : String} {l : Layout} (h : Layout.ofName? name = some l) :
    l.name = name := by
  have hname := List.find?_some h
  simpa using hname

theorem changes_of_setKey (hkey : ∀ file, key ≠ "M" ++ file) (h : setKey o key value = .ok o') :
    Changes o o' key value := by
  unfold setKey at h
  split_ifs at h with hplugins hpaths hprefix haddr hformat htimeout htype hhelp
  · obtain rfl := Except.ok.inj h
    subst hplugins
    constructor <;> simp [hkey]
  · subst hpaths
    split at h
    · next l hl =>
      obtain rfl := Except.ok.inj h
      constructor <;> simp [hkey, name_of_ofName? hl]
    · cases h
  · obtain rfl := Except.ok.inj h
    subst hprefix
    constructor <;> simp [hkey]
  · obtain rfl := Except.ok.inj h
    subst haddr
    constructor <;> simp [hkey]
  · obtain rfl := Except.ok.inj h
    subst hformat
    constructor <;> simp [hkey]
  · subst htimeout
    split at h
    · next n hn =>
      obtain rfl := Except.ok.inj h
      constructor <;> simp [hkey, seconds?_dropTail_eq_some_iff.1 hn]
    · cases h
  · obtain rfl := Except.ok.inj h
    subst htype
    constructor <;> simp [hkey]
  · obtain rfl := Except.ok.inj h
    subst hhelp
    constructor <;> simp [hkey]

theorem changes_of_setEntry (h : setEntry o (key, value) = .ok o') : Changes o o' key value := by
  unfold setEntry at h
  split at h
  · next file hfile =>
    obtain rfl : key = "M" ++ file := afterLead_eq_some_iff.1 hfile
    obtain rfl := Except.ok.inj h
    have hother {k : String} (hk : k ∈ knownKeys) : "M" ++ file ≠ k :=
      (ne_of_mem_knownKeys hk).symm
    constructor
    case importOverrides =>
      intro file'
      rw [Table.lookup_set]
      simp [eq_comm]
    case ordered => exact fun hordered => hordered.set file value
    all_goals rw [if_neg (hother (by decide))]
  · next hnone =>
    refine changes_of_setKey (fun file hkey => ?_) h
    exact nomatch hnone.symm.trans (afterLead_eq_some_iff.2 hkey)

theorem getD_lastValue_concat {text text' default k : String}
    (h : text = (lastValue entries k).getD default)
    (h' : text' = if key = k then value else text) :
    text' = (lastValue (entries ++ [(key, value)]) k).getD default := by
  rw [h', lastValue_concat]
  split
  · next hkey => rw [if_pos hkey.symm, Option.getD_some]
  · next hkey => rw [if_neg (Ne.symm hkey), h]

/-- Options that hold the settings so far hold one more after it is applied. -/
theorem Holds.set (h : Holds o entries) (hset : setEntry o (key, value) = .ok o') :
    Holds o' (entries ++ [(key, value)]) := by
  have hchanges := changes_of_setEntry hset
  constructor
  case importOverrides =>
    intro file
    rw [hchanges.importOverrides, lastValue_concat, h.importOverrides]
    simp [eq_comm]
  case ordered => exact hchanges.ordered h.ordered
  case timeoutSecs =>
    have htimeout := hchanges.timeoutSecs
    rw [lastValue_concat]
    split at htimeout
    · next hkey => rwa [if_pos hkey.symm]
    · next hkey =>
      rw [if_neg (Ne.symm hkey), htimeout]
      exact h.timeoutSecs
  exacts [getD_lastValue_concat h.paths hchanges.paths,
    getD_lastValue_concat h.importPrefix hchanges.importPrefix,
    getD_lastValue_concat h.serverAddr hchanges.serverAddr,
    getD_lastValue_concat h.responseFormat hchanges.responseFormat,
    getD_lastValue_concat h.authTokenType hchanges.authTokenType,
    getD_lastValue_concat h.helpText hchanges.helpText]

theorem holds_default : Holds {} [] := by
  constructor <;> simp [lastValue, Table.Ordered]

theorem holds_of_foldlM {entries : List (String × String)} :
    ∀ {o : Options}, entries.foldlM setEntry {} = .ok o → Holds o entries := by
  induction entries using List.reverseRecOn with
  | nil =>
    intro o h
    obtain rfl := Except.ok.inj h
    exact holds_default
  | append_singleton entries e ih =>
    intro o h
    obtain ⟨o', ho', hset⟩ := foldlM_concat_eq_ok_iff.1 h
    exact (ih ho').set hset

/-! ## Settings that cannot be used -/

theorem exists_ofName?_iff {name : String} :
    (∃ l, Layout.ofName? name = some l) ↔ name = "import" ∨ name = "source_relative" := by
  constructor
  · rintro ⟨l, hl⟩
    rw [← name_of_ofName? hl]
    cases l
    · exact Or.inl rfl
    · exact Or.inr rfl
  · rintro (rfl | rfl)
    · exact ⟨.importPath, by decide⟩
    · exact ⟨.sourceRelative, by decide⟩

theorem setKey_cases (o : Options) (hkey : ∀ file, key ≠ "M" ++ file) :
    (Acceptable key value ∧ ∃ o', setKey o key value = .ok o') ∨
      ¬Acceptable key value ∧ setKey o key value = .error (faultOf key value) := by
  rw [Acceptable, or_iff_right (not_exists.2 hkey)]
  unfold setKey
  split_ifs with hplugins hpaths hprefix haddr hformat htimeout htype hhelp
  · subst hplugins
    exact Or.inl ⟨⟨by decide, by simp, by simp⟩, _, rfl⟩
  · subst hpaths
    split
    · next l hl =>
      exact Or.inl ⟨⟨by decide, fun _ => exists_ofName?_iff.1 ⟨l, hl⟩, by simp⟩, _, rfl⟩
    · next hnone =>
      refine Or.inr ⟨fun h => ?_, by rw [faultOf, if_pos (by decide)]⟩
      obtain ⟨l, hl⟩ := exists_ofName?_iff.2 (h.2.1 rfl)
      exact nomatch hnone.symm.trans hl
  · subst hprefix
    exact Or.inl ⟨⟨by decide, by simp, by simp⟩, _, rfl⟩
  · subst haddr
    exact Or.inl ⟨⟨by decide, by simp, by simp⟩, _, rfl⟩
  · subst hformat
    exact Or.inl ⟨⟨by decide, by simp, by simp⟩, _, rfl⟩
  · subst htimeout
    split
    · next n hn =>
      exact Or.inl ⟨⟨by decide, by simp, fun _ => ⟨n, seconds?_dropTail_eq_some_iff.1 hn⟩⟩, _, rfl⟩
    · next hnone =>
      refine Or.inr ⟨fun h => ?_, by rw [faultOf, if_pos (by decide)]⟩
      obtain ⟨n, hn⟩ := h.2.2 rfl
      exact nomatch hnone.symm.trans (seconds?_dropTail_eq_some_iff.2 hn)
  · subst htype
    exact Or.inl ⟨⟨by decide, by simp, by simp⟩, _, rfl⟩
  · subst hhelp
    exact Or.inl ⟨⟨by decide, by simp, by simp⟩, _, rfl⟩
  · have hunknown : key ∉ knownKeys := by
      simp [knownKeys, *]
    exact Or.inr ⟨fun h => hunknown h.1, by rw [faultOf, if_neg hunknown]⟩

/-- A setting is applied if it can be used, and otherwise refused with its error. -/
theorem setEntry_cases (o : Options) (e : String × String) :
    (Acceptable e.1 e.2 ∧ ∃ o', setEntry o e = .ok o') ∨
      ¬Acceptable e.1 e.2 ∧ setEntry o e = .error (faultOf e.1 e.2) := by
  unfold setEntry
  split
  · next file hfile => exact Or.inl ⟨Or.inl ⟨file, afterLead_eq_some_iff.1 hfile⟩, _, rfl⟩
  · next hnone =>
    exact setKey_cases o fun file hkey => nomatch hnone.symm.trans (afterLead_eq_some_iff.2 hkey)

/-! ## The options of a parameter -/

theorem IsSeconds.unique {n m : Nat} (h : IsSeconds value n) (h' : IsSeconds value m) : n = m :=
  Option.some.inj
    ((seconds?_dropTail_eq_some_iff.2 h).symm.trans (seconds?_dropTail_eq_some_iff.2 h'))

/-- Options are fixed by what they hold. -/
theorem Holds.ext {entries' : List (String × String)} (h : Holds o entries) (h' : Holds o' entries')
    (heq : ∀ k, lastValue entries k = lastValue entries' k) : o = o' := by
  have hpaths : o.paths = o'.paths := by
    have hname : o.paths.name = o'.paths.name := by rw [h.paths, heq, h'.paths]
    revert hname
    cases o.paths <;> cases o'.paths <;> decide
  have hoverrides : o.importOverrides = o'.importOverrides :=
    h.ordered.ext h'.ordered fun file => by rw [h.importOverrides, heq, h'.importOverrides]
  have htimeout : o.timeoutSecs = o'.timeoutSecs := by
    have hn := h.timeoutSecs
    have hn' := h'.timeoutSecs
    rw [heq] at hn
    cases hlast : lastValue entries' "timeout" with
    | none =>
      rw [hlast] at hn hn'
      exact hn.trans hn'.symm
    | some value =>
      rw [hlast] at hn hn'
      exact IsSeconds.unique hn hn'
  have hprefix : o.importPrefix = o'.importPrefix := by rw [h.importPrefix, heq, h'.importPrefix]
  have haddr : o.serverAddr = o'.serverAddr := by rw [h.serverAddr, heq, h'.serverAddr]
  have hformat : o.responseFormat = o'.responseFormat := by
    rw [h.responseFormat, heq, h'.responseFormat]
  have htype : o.authTokenType = o'.authTokenType := by rw [h.authTokenType, heq, h'.authTokenType]
  have hhelp : o.helpText = o'.helpText := by rw [h.helpText, heq, h'.helpText]
  cases o
  cases o'
  exact (Options.mk.injEq ..).mpr
    ⟨hpaths, hprefix, hoverrides, haddr, hformat, htimeout, htype, hhelp⟩

/-- Where each key stands once, settings in another order have the same last values. -/
theorem lastValue_eq_of_perm {entries' : List (String × String)} (h : entries'.Perm entries)
    (hkeys : (entries.map Prod.fst).Nodup) (k : String) :
    lastValue entries' k = lastValue entries k := by
  have hmem {es : List (String × String)} (hes : (es.map Prod.fst).Nodup) {v : String} :
      lastValue es k = some v ↔ (k, v) ∈ es := by
    have hrev : (es.reverse.map Prod.fst).Nodup := by
      rwa [List.map_reverse, (List.reverse_perm _).nodup_iff]
    rw [lastValue, Table.lookup_eq_some_iff_mem hrev, List.mem_reverse]
  have hkeys' : (entries'.map Prod.fst).Nodup := (h.map Prod.fst).nodup_iff.2 hkeys
  exact Option.ext fun v => by rw [hmem hkeys', hmem hkeys, h.mem_iff]

theorem foldlM_setEntry_eq_ok_iff :
    entries.foldlM setEntry {} = .ok o ↔ (∀ e ∈ entries, Acceptable e.1 e.2) ∧ Holds o entries := by
  constructor
  · intro h
    exact ⟨(exists_foldlM_eq_ok_iff setEntry_cases).1 ⟨o, h⟩, holds_of_foldlM h⟩
  · rintro ⟨hentries, h⟩
    obtain ⟨o', ho'⟩ := (exists_foldlM_eq_ok_iff setEntry_cases (b := {})).2 hentries
    rw [ho', (holds_of_foldlM ho').ext h fun _ => rfl]

/-- A parameter is written for one list of settings. It is read if each of them can be used, as the
options that hold them, and a parameter for these settings in another order is read alike if no key
is set twice. Otherwise the error is that of the first setting that cannot be used, whatever follows
it. -/
theorem ofParameter_exact (parameter : String) :
    ∃ entries, (∀ entries', Written parameter entries' ↔ entries' = entries) ∧
      ((∃ o, ofParameter parameter = .ok o) ↔ ∀ e ∈ entries, Acceptable e.1 e.2) ∧
      (∀ o, ofParameter parameter = .ok o ↔
        (∀ e ∈ entries, Acceptable e.1 e.2) ∧ Holds o entries) ∧
      (∀ parameter' entries' o, Written parameter' entries' → entries'.Perm entries →
        (entries.map Prod.fst).Nodup → ofParameter parameter = .ok o →
          ofParameter parameter' = .ok o) ∧
      ∀ err, ofParameter parameter = .error err ↔
        ∃ before bad after, entries = before ++ bad :: after ∧
          (∀ e ∈ before, Acceptable e.1 e.2) ∧ ¬Acceptable bad.1 bad.2 ∧ err = faultOf bad.1 bad.2 := by
  rw [ofParameter_eq]
  refine ⟨(settings parameter).map settingParts, fun _ => written_iff,
    exists_foldlM_eq_ok_iff setEntry_cases, fun _ => foldlM_setEntry_eq_ok_iff, ?_,
    fun _ => foldlM_eq_error_iff setEntry_cases⟩
  intro parameter' entries' o hwritten hperm hkeys h
  obtain rfl := written_iff.1 hwritten
  obtain ⟨hentries, hholds⟩ := foldlM_setEntry_eq_ok_iff.1 h
  have hentries' : ∀ e ∈ (settings parameter').map settingParts, Acceptable e.1 e.2 :=
    fun e he => hentries e (hperm.mem_iff.1 he)
  obtain ⟨o', ho'⟩ := (exists_foldlM_eq_ok_iff setEntry_cases (b := {})).2 hentries'
  rw [ofParameter_eq, ho', (holds_of_foldlM ho').ext hholds (lastValue_eq_of_perm hperm hkeys)]

/-- A later value replaces an earlier one, and only the first equals sign ends the key. -/
example : ofParameter "timeout=+5s, Ma.proto=x=y ,timeout=007,,Mb.proto=z=,help" =
    .ok { timeoutSecs := 7, importOverrides := [("a.proto", "x=y"), ("b.proto", "z=")], helpText := "" } := by
  decide +kernel

end Options

end ServiceCli
