import Mathlib.Data.Nat.Digits.Defs
import ServiceCli.Options.Parameter
import ServiceCli.Proofs.Text.Cuts

/-!
# The settings in a parameter

`Written parameter entries` says which settings, each a key with its value, a parameter is written
for: commas stand between the settings, blanks may stand around each of them, and between two commas
there may be none at all. The key of a setting ends at its first equals sign; without one, all of it
is the key and the value is empty. Every parameter is written for one list of settings, which is the
one that `settings` and `settingParts` cut it into (`written_iff`). A number of seconds is written in
decimal digits, between a sign and a unit that may be missing (`seconds?_dropTail_eq_some_iff`).
-/

namespace ServiceCli

open Text

/-! ## Blanks -/

namespace Text

/-- A text of blanks. -/
def IsBlank (s : String) : Prop :=
  ∀ c ∈ s.toList, isBlank c

/-- A text that neither starts nor ends with a blank. -/
structure IsTrimmed (s : String) : Prop where
  first : ∀ c, s.toList.head? = some c → ¬isBlank c
  last : ∀ c, s.toList.getLast? = some c → ¬isBlank c

theorem dropWhile_of_head? {p : Char → Bool} {cs : List Char}
    (h : ∀ c, cs.head? = some c → ¬p c) : cs.dropWhile p = cs := by
  cases cs with
  | nil => rfl
  | cons c cs => exact List.dropWhile_cons_of_neg (h c rfl)

theorem not_of_head?_dropWhile {p : Char → Bool} {cs : List Char} {c : Char}
    (h : (cs.dropWhile p).head? = some c) : ¬p c := by
  obtain ⟨rest, hrest⟩ := List.head?_eq_some_iff.1 h
  have hhead := List.head_dropWhile_not p (l := cs) (by simp [hrest])
  simpa [hrest] using hhead

/-- Blanks around a text are dropped, and nothing else. -/
theorem trimmed_eq_iff {s text : String} :
    trimmed s = text ↔
      ∃ lead tail, s = lead ++ text ++ tail ∧ IsBlank lead ∧ IsBlank tail ∧ IsTrimmed text := by
  constructor
  · rintro rfl
    have htail := List.takeWhile_append_dropWhile (p := isBlank)
      (l := (s.toList.dropWhile isBlank).reverse)
    refine ⟨String.ofList (s.toList.takeWhile isBlank),
      String.ofList ((s.toList.dropWhile isBlank).reverse.takeWhile isBlank).reverse, ?_, ?_, ?_,
      ?_, ?_⟩
    · have hrest := congrArg List.reverse htail
      rw [List.reverse_append, List.reverse_reverse] at hrest
      rw [← String.toList_inj]
      simp [trimmed, hrest]
    · intro c hc
      exact List.mem_takeWhile_imp (String.toList_ofList ▸ hc)
    · intro c hc
      rw [String.toList_ofList, List.mem_reverse] at hc
      exact List.mem_takeWhile_imp hc
    · intro c hc
      rw [trimmed, String.toList_ofList, List.head?_reverse] at hc
      have hsuffix := List.dropWhile_suffix (l := (s.toList.dropWhile isBlank).reverse) isBlank
      obtain ⟨before, hbefore⟩ := hsuffix
      have hhead : (s.toList.dropWhile isBlank).head? = some c := by
        rw [← List.getLast?_reverse, ← hbefore, List.getLast?_append, hc, Option.some_or]
      exact not_of_head?_dropWhile hhead
    · intro c hc
      rw [trimmed, String.toList_ofList, List.getLast?_reverse] at hc
      exact not_of_head?_dropWhile hc
  · rintro ⟨lead, tail, rfl, hlead, htail, htext⟩
    have htail' : ∀ c ∈ tail.toList.reverse, isBlank c := fun c hc =>
      htail c (List.mem_reverse.1 hc)
    have hback : (text.toList ++ tail.toList).reverse.dropWhile isBlank = text.toList.reverse := by
      rw [List.reverse_append, List.dropWhile_append_of_pos htail']
      exact dropWhile_of_head? fun c hc => htext.last c (List.head?_reverse ▸ hc)
    rw [trimmed, ← String.toList_inj, String.toList_ofList, String.toList_append,
      String.toList_append, List.append_assoc, List.dropWhile_append_of_pos hlead]
    cases hempty : text.toList with
    | nil =>
      have hall : tail.toList.dropWhile isBlank = [] := List.dropWhile_eq_nil_iff.2 htail
      simp [hall]
    | cons c cs =>
      rw [hempty] at hback
      rw [List.cons_append, List.dropWhile_cons_of_neg (htext.first c (by simp [hempty])),
        ← List.cons_append, hback, List.reverse_reverse]

theorem trimmed_eq_empty_iff {s : String} : trimmed s = "" ↔ IsBlank s := by
  rw [trimmed_eq_iff]
  constructor
  · rintro ⟨lead, tail, rfl, hlead, htail, -⟩ c hc
    simp only [String.append_empty, String.toList_append, List.mem_append] at hc
    exact hc.elim (hlead c) (htail c)
  · intro h
    exact ⟨s, "", by simp, h, by simp [IsBlank], by simp, by simp⟩

end Text

/-! ## Seconds -/

/-- The number that decimal digits stand for. -/
def decimalValue (digits : String) : Nat :=
  Nat.ofDigits 10 (digits.toList.reverse.map fun c => c.toNat - '0'.toNat)

theorem digitsValue_eq_some_iff {n : Nat} :
    ∀ {before : Nat} {cs : List Char}, digitsValue 10 decimalDigit before cs = some n ↔
      (∀ c ∈ cs, c.isDigit) ∧ n = before * 10 ^ cs.length + decimalValue (String.ofList cs)
  | before, [] => by simp [digitsValue, decimalValue, @eq_comm _ n]
  | before, c :: cs => by
    have hcons : decimalValue (String.ofList (c :: cs))
        = (c.toNat - '0'.toNat) * 10 ^ cs.length + decimalValue (String.ofList cs) := by
      rw [decimalValue, decimalValue, String.toList_ofList, String.toList_ofList,
        List.reverse_cons, List.map_append, Nat.ofDigits_append, List.length_map,
        List.length_reverse, List.map_singleton, Nat.ofDigits_singleton, Nat.add_comm, Nat.mul_comm]
    by_cases hc : c.isDigit
    · have hstep : digitsValue 10 decimalDigit before (c :: cs)
          = digitsValue 10 decimalDigit (before * 10 + (c.toNat - '0'.toNat)) cs := by
        simp [digitsValue, decimalDigit, hc]
      rw [hstep, digitsValue_eq_some_iff, List.forall_mem_cons, hcons, List.length_cons]
      simp only [hc, true_and, Nat.pow_succ, Nat.add_mul, Nat.add_assoc, Nat.mul_assoc,
        Nat.mul_comm 10]
    · have hstep : digitsValue 10 decimalDigit before (c :: cs) = none := by
        simp [digitsValue, decimalDigit, hc]
      simp [hstep, hc]

/-- A number of seconds of 64 bits, in decimal digits. A plus sign may stand before them and one
letter for the unit behind them. -/
def IsSeconds (value : String) (n : Nat) : Prop :=
  ∃ sign digits unit, value = sign ++ digits ++ unit ∧ (sign = "" ∨ sign = "+") ∧
    (unit = "" ∨ unit = "s") ∧ digits ≠ "" ∧ (∀ c ∈ digits.toList, c.isDigit) ∧
    n = decimalValue digits ∧ n ≤ 2 ^ 64 - 1


theorem decimal?_eq_some_iff {cs : List Char} {n : Nat} :
    decimal? cs = some n ↔
      cs ≠ [] ∧ (∀ c ∈ cs, c.isDigit) ∧ n = decimalValue (String.ofList cs) := by
  rw [decimal?, numeral?]
  cases cs with
  | nil => simp
  | cons c cs =>
    rw [List.isEmpty_cons, if_neg Bool.false_ne_true, digitsValue_eq_some_iff, Nat.zero_mul,
      Nat.zero_add]
    simp

theorem seconds?_eq_some_iff {s : String} {n : Nat} :
    seconds? s = some n ↔
      ∃ sign digits, s = sign ++ digits ∧ (sign = "" ∨ sign = "+") ∧ digits ≠ "" ∧
        (∀ c ∈ digits.toList, c.isDigit) ∧ n = decimalValue digits ∧ n ≤ 2 ^ 64 - 1 := by
  have hsize : n < UInt64.size ↔ n ≤ 2 ^ 64 - 1 := by
    rw [UInt64.size]
    omega
  have hread {cs : List Char} : (decimal? cs).filter (· < UInt64.size) = some n ↔
      cs ≠ [] ∧ (∀ c ∈ cs, c.isDigit) ∧ n = decimalValue (String.ofList cs) ∧ n ≤ 2 ^ 64 - 1 := by
    rw [Option.filter_eq_some_iff, decimal?_eq_some_iff, decide_eq_true_iff, hsize]
    simp only [and_assoc]
  unfold seconds?
  dsimp only
  rw [hread]
  constructor
  · split
    · next cs hs =>
      rintro ⟨hne, hdigits, hn, hle⟩
      refine ⟨"+", String.ofList cs, ?_, Or.inr rfl, by simpa using hne, by simpa using hdigits, hn,
        hle⟩
      rw [← String.toList_inj, hs]
      simp
    · rintro ⟨hne, hdigits, hn, hle⟩
      exact ⟨"", s, by simp, Or.inl rfl, by simpa using hne, hdigits, by simpa using hn, hle⟩
  · rintro ⟨sign, digits, rfl, rfl | rfl, hne, hdigits, hn, hle⟩
    · rw [String.empty_append]
      split
      · next cs hs =>
        have hplus := hdigits '+' (by simp [hs])
        simp at hplus
      · exact ⟨by simpa using hne, hdigits, by simpa using hn, hle⟩
    · have hs : ("+" ++ digits).toList = '+' :: digits.toList := by simp
      rw [hs]
      exact ⟨by simpa using hne, hdigits, by simpa using hn, hle⟩

/-- The seconds are read off the text without the letter for the unit. -/
theorem seconds?_dropTail_eq_some_iff {value : String} {n : Nat} :
    seconds? (dropTail "s" value) = some n ↔ IsSeconds value n := by
  rw [seconds?_eq_some_iff]
  constructor
  · rintro ⟨sign, digits, hvalue, hsign, hdigits⟩
    by_cases hunit : ∃ r, value = r ++ "s"
    · obtain ⟨r, rfl⟩ := hunit
      rw [dropTail_append] at hvalue
      exact ⟨sign, digits, "s", by rw [hvalue], hsign, Or.inr rfl, hdigits⟩
    · rw [dropTail_of_forall_ne (not_exists.1 hunit)] at hvalue
      exact ⟨sign, digits, "", by rw [hvalue, String.append_empty], hsign, Or.inl rfl, hdigits⟩
  · rintro ⟨sign, digits, unit, rfl, hsign, rfl | rfl, hne, hdigits, hn⟩
    · -- The last character is a digit, and so no letter for a unit.
      have hlast : ∀ r, sign ++ digits ≠ r ++ "s" := by
        intro r heq
        have hgetLast := congrArg (fun s => s.toList.getLast?) heq
        simp only [String.toList_append, List.getLast?_append] at hgetLast
        cases hd : digits.toList.getLast? with
        | none => exact hne (by simpa using hd)
        | some c =>
          have hc := hdigits c (List.mem_of_getLast? hd)
          have hs : c = 's' := by simpa [hd] using hgetLast
          simp [hs] at hc
      rw [String.append_empty, dropTail_of_forall_ne hlast]
      exact ⟨sign, digits, rfl, hsign, hne, hdigits, hn⟩
    · rw [dropTail_append]
      exact ⟨sign, digits, rfl, hsign, hne, hdigits, hn⟩

/-! ## Settings -/

namespace Options

/-- The key and the value of a setting. -/
def Parts (text key value : String) : Prop :=
  '=' ∉ key.toList ∧ (text = key ++ "=" ++ value ∨ text = key ∧ value = "")

theorem settingParts_eq_iff {text key value : String} :
    settingParts text = (key, value) ↔ Parts text key value := by
  have hcut : text = key ++ "=" ++ value ↔ text.toList = key.toList ++ '=' :: value.toList := by
    rw [← String.toList_inj]
    simp
  rw [settingParts, Parts]
  cases h : cutFirst '=' text with
  | none =>
    have hnone := cutFirst_eq_none_iff.1 h
    rw [Option.getD_none]
    constructor
    · rintro ⟨⟩
      exact ⟨hnone, Or.inr ⟨rfl, rfl⟩⟩
    · rintro ⟨-, htext | ⟨rfl, rfl⟩⟩
      · exact absurd (by simp [htext]) hnone
      · rfl
  | some cut =>
    obtain ⟨lead, rest⟩ := cut
    obtain ⟨htext, hlead⟩ := cutFirst_eq_some_iff.1 h
    rw [Option.getD_some]
    constructor
    · rintro ⟨⟩
      exact ⟨hlead, Or.inl (hcut.2 htext)⟩
    · rintro ⟨hkey, heq | ⟨rfl, -⟩⟩
      · have hparts := cutFirst_eq_some_iff.2 ⟨hcut.1 heq, hkey⟩
        exact Option.some.inj (h.symm.trans hparts)
      · exact absurd (by simp [htext]) hkey

/-- The settings that the pieces between the commas are written for. -/
inductive Settings : List String → List (String × String) → Prop
  | nil : Settings [] []
  | blank {piece : String} {ps : List String} {entries : List (String × String)} :
    IsBlank piece → Settings ps entries → Settings (piece :: ps) entries
  | setting {lead text tail key value : String} {ps : List String}
    {entries : List (String × String)} :
    IsBlank lead → IsBlank tail → IsTrimmed text → text ≠ "" → Parts text key value →
      Settings ps entries → Settings ((lead ++ text ++ tail) :: ps) ((key, value) :: entries)

theorem settings_iff {ps : List String} {entries : List (String × String)} :
    Settings ps entries ↔ entries = ((ps.map trimmed).filter (· != "")).map settingParts := by
  constructor
  · intro h
    induction h with
    | nil => rfl
    | @blank piece ps entries hblank _ ih =>
      rw [List.map_cons, trimmed_eq_empty_iff.2 hblank]
      exact ih
    | @setting lead text tail key value ps entries hlead htail htext hne hparts _ ih =>
      rw [List.map_cons, trimmed_eq_iff.2 ⟨lead, tail, rfl, hlead, htail, htext⟩,
        List.filter_cons_of_pos (by simpa using hne), List.map_cons,
        settingParts_eq_iff.2 hparts, ← ih]
  · rintro rfl
    induction ps with
    | nil => exact .nil
    | cons piece ps ih =>
      rw [List.map_cons]
      by_cases hempty : trimmed piece = ""
      · rw [List.filter_cons_of_neg (by simp [hempty])]
        exact .blank (trimmed_eq_empty_iff.1 hempty) ih
      · obtain ⟨lead, tail, hpiece, hlead, htail, htext⟩ := trimmed_eq_iff.1 (rfl : trimmed piece = _)
        rw [List.filter_cons_of_pos (by simpa using hempty), List.map_cons]
        cases hparts : settingParts (trimmed piece) with
        | mk key value =>
          have hsetting := Settings.setting hlead htail htext hempty (settingParts_eq_iff.1 hparts) ih
          rwa [← hpiece] at hsetting

/-- The settings that a parameter is written for. -/
def Written (parameter : String) (entries : List (String × String)) : Prop :=
  ∃ ps, ps ≠ [] ∧ parameter = String.intercalate "," ps ∧ (∀ piece ∈ ps, ',' ∉ piece.toList) ∧
    Settings ps entries

/-- A parameter is written for the settings that it is cut into, and for no others. -/
theorem written_iff {parameter : String} {entries : List (String × String)} :
    Written parameter entries ↔ entries = (settings parameter).map settingParts := by
  constructor
  · rintro ⟨ps, hne, rfl, hps, hsettings⟩
    rw [settings, pieces_intercalate rfl hne hps]
    exact settings_iff.1 hsettings
  · rintro rfl
    refine ⟨pieces ',' parameter, ?_, (intercalate_pieces rfl parameter).symm,
      fun piece hpiece => notMem_of_mem_pieces hpiece, settings_iff.2 rfl⟩
    simp [pieces]

end Options

end ServiceCli
