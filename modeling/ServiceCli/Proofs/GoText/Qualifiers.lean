import ServiceCli.GoText.Literal
import ServiceCli.Name.Camel
import ServiceCli.Proofs.GoText.Filled

/-!
# Qualifiers in Go text

A name qualifies what follows if it stands in front of a dot in code, that is, neither in a
literal nor in a comment, and is not the end of a longer name (`Qualifies`). Text is read line by
line: at the end of a line Go is back in code (`Spot.next`), apart from literals and comments over
several lines, which are not told apart here. So a name qualifies in a text if it does so in one of
its lines (`qualifies_lines`), and only then unless it holds the end of a line itself
(`exists_line_of_qualifies`).
-/

namespace ServiceCli.GoText

open Text

/-! ## Reading code -/

/-- What a reader of Go is in the middle of. -/
inductive Spot where
  | code
  /-- Behind one slash, which may start a comment. -/
  | slash
  | comment
  /-- In a literal that ends with this quote. -/
  | literal (quote : Char)
  /-- Behind a backslash in such a literal. -/
  | escape (quote : Char)
  deriving DecidableEq, Repr

namespace Spot

/-- Where a character in code leads. -/
def entered (c : Char) : Spot :=
  if c = '"' ∨ c = '\'' then literal c
  else if c = '/' then slash
  else code

/-- Where the next character leads. -/
def next (s : Spot) (c : Char) : Spot :=
  if c = '\n' then code
  else match s with
    | code => entered c
    | slash => if c = '/' then comment else entered c
    | comment => comment
    | literal quote =>
      if c = quote then code else if c = '\\' then escape quote else literal quote
    | escape quote => literal quote

/-- Whether a reader is neither in a literal nor in a comment. -/
def isCode : Spot → Bool
  | code | slash => true
  | comment | literal _ | escape _ => false

/-- Where a text leads. -/
def after (s : Spot) (cs : List Char) : Spot :=
  cs.foldl next s

@[simp] theorem after_nil (s : Spot) : s.after [] = s := rfl

@[simp] theorem after_cons (s : Spot) (c : Char) (cs : List Char) :
    s.after (c :: cs) = (s.next c).after cs := rfl

@[simp] theorem after_append (s : Spot) (cs ds : List Char) :
    s.after (cs ++ ds) = (s.after cs).after ds :=
  List.foldl_append

@[simp] theorem next_newline (s : Spot) : s.next '\n' = code := if_pos rfl

theorem next_of_isIdentifierPart {s : Spot} (hs : s.isCode) {c : Char}
    (hc : isIdentifierPart c) : s.next c = code := by
  have hne : c ≠ '\n' ∧ c ≠ '"' ∧ c ≠ '\'' ∧ c ≠ '/' := by
    refine ⟨?_, ?_, ?_, ?_⟩ <;> (rintro rfl; revert hc; decide)
  obtain ⟨hline, hquote, hapostrophe, hslash⟩ := hne
  have hentered : entered c = code := by simp [entered, hquote, hapostrophe, hslash]
  cases s with
  | code => rw [next, if_neg hline, hentered]
  | slash => rw [next, if_neg hline, if_neg hslash, hentered]
  | comment | literal quote | escape quote => cases hs

/-- A name does not lead out of code. -/
theorem isCode_after {cs : List Char} (h : ∀ c ∈ cs, isIdentifierPart c) :
    ∀ {s : Spot}, s.isCode → (s.after cs).isCode := by
  induction cs with
  | nil => exact id
  | cons c cs ih =>
    obtain ⟨hc, hcs⟩ := List.forall_mem_cons.1 h
    intro s hs
    rw [after_cons, next_of_isIdentifierPart hs hc]
    exact ih hcs rfl

theorem after_of_isIdentifierPart :
    ∀ {cs : List Char}, (∀ c ∈ cs, isIdentifierPart c) → code.after cs = code
  | [], _ => rfl
  | c :: cs, h => by
    obtain ⟨hc, hcs⟩ := List.forall_mem_cons.1 h
    rw [after_cons, next_of_isIdentifierPart rfl hc, after_of_isIdentifierPart hcs]

end Spot

/-! ## Names before dots -/

/-- Whether a name can begin behind a text: it does not end in a dot or in a character that can
belong to a name. -/
def startsName (before : List Char) : Bool :=
  before.getLast?.all fun c => !(isIdentifierPart c || c == '.' || 0x80 ≤ c.toNat)

theorem startsName_append (as : List Char) {bs : List Char} (hbs : bs ≠ []) :
    startsName (as ++ bs) = startsName bs := by
  rw [startsName, startsName, List.getLast?_append, Option.or_of_isSome (by simpa using hbs)]

theorem startsName_newline (as bs : List Char) :
    startsName (as ++ '\n' :: bs) = startsName bs := by
  rw [startsName_append as (List.cons_ne_nil _ _)]
  cases bs with
  | nil => rfl
  | cons b bs => rw [startsName, startsName, List.getLast?_cons_cons]

/-- A name stands in code, as a whole, in front of a dot. -/
def Qualifies (name text : String) : Prop :=
  ∃ before after, text.toList = before ++ name.toList ++ '.' :: after ∧
    (Spot.code.after before).isCode ∧ startsName before

/-- The name qualifies what follows somewhere in `cs`, where `before` has been read. -/
def qualifiesFrom (name : List Char) (before : List Char) : List Char → Bool
  | [] => false
  | c :: cs =>
    (name ++ ['.']).isPrefixOf (c :: cs) && (Spot.code.after before).isCode && startsName before
      || qualifiesFrom name (before ++ [c]) cs

theorem qualifiesFrom_iff {name : List Char} :
    ∀ {before cs : List Char}, qualifiesFrom name before cs ↔
      ∃ as bs, cs = as ++ name ++ '.' :: bs ∧ (Spot.code.after (before ++ as)).isCode ∧
        startsName (before ++ as)
  | before, [] => by simp [qualifiesFrom]
  | before, c :: cs => by
    rw [qualifiesFrom, Bool.or_eq_true, qualifiesFrom_iff, Bool.and_eq_true, Bool.and_eq_true,
      List.isPrefixOf_iff_prefix]
    constructor
    · rintro (⟨⟨⟨bs, hbs⟩, hcode⟩, hstart⟩ | ⟨as, bs, rfl, hcode, hstart⟩)
      · exact ⟨[], bs, by simp [← hbs], by simpa using hcode, by simpa using hstart⟩
      · exact ⟨c :: as, bs, rfl, by simpa using hcode, by simpa using hstart⟩
    · rintro ⟨as, bs, hcs, hcode, hstart⟩
      cases as with
      | nil =>
        refine Or.inl ⟨⟨⟨bs, by simp [hcs]⟩, by simpa using hcode⟩, by simpa using hstart⟩
      | cons a as =>
        obtain ⟨rfl, rfl⟩ := List.cons.inj hcs
        exact Or.inr ⟨as, bs, rfl, by simpa using hcode, by simpa using hstart⟩

instance (name text : String) : Decidable (Qualifies name text) :=
  decidable_of_iff (qualifiesFrom name.toList [] text.toList) qualifiesFrom_iff

/-- A text that is written out is checked on the characters that it is made of. -/
theorem qualifies_ofList {name cs : List Char} (h : qualifiesFrom name [] cs) :
    Qualifies (String.ofList name) (String.ofList cs) := by
  rw [Qualifies, String.toList_ofList, String.toList_ofList]
  exact qualifiesFrom_iff.1 h

/-- A name in code qualifies; one in a literal, in a comment or at the end of another does not. -/
example : Qualifies "log" "\tlog.Fatal(\"os.Exit\") // fmt.Print" ∧
    ¬Qualifies "os" "\tlog.Fatal(\"os.Exit\") // fmt.Print" ∧
    ¬Qualifies "fmt" "\tlog.Fatal(\"os.Exit\") // fmt.Print" ∧
    ¬Qualifies "og" "\tlog.Fatal(\"os.Exit\") // fmt.Print" := by
  decide +kernel

/-! ## Line by line -/

/-- A text ends with the end of a line. -/
def EndsLine (text : String) : Prop :=
  ∃ start, text = start ++ "\n"

theorem EndsLine.append {b : String} (a : String) (h : EndsLine b) : EndsLine (a ++ b) := by
  obtain ⟨start, rfl⟩ := h
  exact ⟨a ++ start, String.append_assoc.symm⟩

theorem endsLine_lines {ls : List String} (h : ls ≠ []) : EndsLine (lines ls) := by
  induction ls with
  | nil => exact absurd rfl h
  | cons l ls ih =>
    rw [lines_cons]
    cases ls with
    | nil => exact ⟨l, by simp [lines]⟩
    | cons l' ls => exact (ih (List.cons_ne_nil _ _)).append _

section Append

variable {name a b : String}

/-- A name qualifies where it is written in code. -/
theorem qualifies_append {before : String} (hcode : (Spot.code.after before.toList).isCode)
    (hstart : startsName before.toList) (rest : String) :
    Qualifies name (before ++ name ++ "." ++ rest) :=
  ⟨before.toList, rest.toList, by simp, hcode, hstart⟩

/-- A name qualifies where it is written in code behind another name. -/
theorem qualifies_behind_name {before other between : String}
    (hbefore : Spot.code.after before.toList = .code)
    (hother : ∀ c ∈ other.toList, isIdentifierPart c) (hne : between.toList ≠ [])
    (hcode : (Spot.code.after between.toList).isCode) (hstart : startsName between.toList)
    (rest : String) : Qualifies name (before ++ other ++ between ++ name ++ "." ++ rest) := by
  refine qualifies_append ?_ ?_ rest
  · rw [String.toList_append, String.toList_append, Spot.after_append, Spot.after_append, hbefore,
      Spot.after_of_isIdentifierPart hother]
    exact hcode
  · rw [String.toList_append, startsName_append _ hne]
    exact hstart

theorem Qualifies.append (h : Qualifies name a) (b : String) : Qualifies name (a ++ b) := by
  obtain ⟨before, after, ha, hcode, hstart⟩ := h
  exact ⟨before, after ++ b.toList, by simp [ha], hcode, hstart⟩

theorem Qualifies.prepend (h : Qualifies name b) (ha : EndsLine a) : Qualifies name (a ++ b) := by
  obtain ⟨start, rfl⟩ := ha
  obtain ⟨before, after, hb, hcode, hstart⟩ := h
  refine ⟨start.toList ++ '\n' :: before, after, by simp [hb], by simpa using hcode, ?_⟩
  rwa [startsName_newline]

/-- A name without the end of a line qualifies in a text only within a line. -/
theorem qualifies_or_of_newline (hname : '\n' ∉ name.toList)
    (h : Qualifies name (a ++ "\n" ++ b)) : Qualifies name a ∨ Qualifies name b := by
  obtain ⟨before, after, htext, hcode, hstart⟩ := h
  have hdotted : '\n' ∉ name.toList ++ ['.'] := by simpa using hname
  have hcut : (before ++ (name.toList ++ ['.'])) ++ after = a.toList ++ '\n' :: b.toList := by
    simpa using htext.symm
  rcases List.append_eq_append_iff.1 hcut with ⟨as, ha, -⟩ | ⟨bs, hbefore, hbs⟩
  · exact Or.inl ⟨before, as, by simp [ha], hcode, hstart⟩
  · cases bs with
    | nil => exact Or.inl ⟨before, [], by simpa using hbefore.symm, hcode, hstart⟩
    | cons c bs =>
      obtain ⟨rfl, hb⟩ := List.cons.inj hbs
      rcases List.append_eq_append_iff.1 hbefore with ⟨as, -, has⟩ | ⟨cs, rfl, hcs⟩
      · exact absurd (by simp [has]) hdotted
      · cases cs with
        | nil => exact absurd (hcs ▸ List.mem_cons_self) hdotted
        | cons c cs =>
          obtain ⟨rfl, rfl⟩ := List.cons.inj hcs
          rw [startsName_newline] at hstart
          exact Or.inr ⟨cs, after, by simp [hb], by simpa using hcode, hstart⟩

end Append

theorem not_qualifies_empty (name : String) : ¬Qualifies name "" := by
  rintro ⟨before, after, htext, -⟩
  simp at htext

section Join

variable {name : String} {ts : List String}

theorem Qualifies.join (hends : ∀ t ∈ ts, EndsLine t) {t : String} (ht : t ∈ ts)
    (h : Qualifies name t) : Qualifies name (String.join ts) := by
  induction ts with
  | nil => cases ht
  | cons u ts ih =>
    rw [String.join_cons]
    obtain ⟨hu, hts⟩ := List.forall_mem_cons.1 hends
    rcases List.mem_cons.1 ht with rfl | ht
    · exact h.append _
    · exact (ih hts ht).prepend hu

theorem exists_of_qualifies_join (hname : '\n' ∉ name.toList) (hends : ∀ t ∈ ts, EndsLine t)
    (h : Qualifies name (String.join ts)) : ∃ t ∈ ts, Qualifies name t := by
  induction ts with
  | nil => exact absurd h (not_qualifies_empty name)
  | cons t ts ih =>
    rw [String.join_cons] at h
    obtain ⟨⟨start, rfl⟩, hts⟩ := List.forall_mem_cons.1 hends
    rcases qualifies_or_of_newline hname h with hstart | hrest
    · exact ⟨_, List.mem_cons_self, hstart.append _⟩
    · obtain ⟨u, hu, hq⟩ := ih hts hrest
      exact ⟨u, List.mem_cons_of_mem _ hu, hq⟩

variable {ls : List String}

theorem endsLine_of_mem_map {t : String} (h : t ∈ ls.map (· ++ "\n")) : EndsLine t := by
  obtain ⟨l, -, rfl⟩ := List.mem_map.1 h
  exact ⟨l, rfl⟩

/-- What qualifies in a line does so in the text. -/
theorem qualifies_lines {l : String} (hl : l ∈ ls) (h : Qualifies name l) :
    Qualifies name (lines ls) :=
  Qualifies.join (fun _ => endsLine_of_mem_map) (List.mem_map_of_mem hl) (h.append "\n")

theorem exists_line_of_qualifies (hname : '\n' ∉ name.toList) (h : Qualifies name (lines ls)) :
    ∃ l ∈ ls, Qualifies name l := by
  obtain ⟨t, ht, hq⟩ := exists_of_qualifies_join hname (fun _ => endsLine_of_mem_map) h
  obtain ⟨l, hl, rfl⟩ := List.mem_map.1 ht
  rw [← String.append_empty (s := l ++ "\n")] at hq
  exact ⟨l, hl, (qualifies_or_of_newline hname hq).resolve_right (not_qualifies_empty name)⟩

end Join

end ServiceCli.GoText
