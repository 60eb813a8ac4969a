import ServiceCli.GoText.Request

/-!
# The layout of a skeleton

A skeleton is written on one line (`Skeleton.line`), or over several lines at an indent
(`skeletonText`). The former has a comma and a space between two fields, the latter a comma after
each field. Apart from this the two agree: both come to the text without layout
(`Skeleton.compact`), the one when the spaces after its commas are left out (`unspaced`), the other
when its newlines and tabs are, and then its commas before closing braces (`squeezed`). So the text
over several lines does not depend on the indent but for its tabs (`squeezed_skeletonText`).

This asks of the names in the skeleton that they contain nothing of what is left out, and no
closing brace.
-/

namespace ServiceCli

open Request

namespace Request.Skeleton

mutual

/-- The names of the types and fields in a skeleton. -/
def names : Skeleton → List String
  | construct t fs => t :: namesOfFields fs
  | emptyList t => [t]
  | nothing => []

/-- The names of the types and fields in the fields of a message. -/
def namesOfFields : List (String × Skeleton) → List String
  | [] => []
  | (name, value) :: fs => name :: (value.names ++ namesOfFields fs)

end

mutual

/-- The skeleton with a comma between two fields and no layout. -/
def compact : Skeleton → String
  | construct t fs => "&" ++ t ++ "\x7b" ++ compactFields fs ++ "\x7d"
  | emptyList t => "[]*" ++ t ++ "\x7b\x7d"
  | nothing => "nil"

/-- The fields of a message with commas between them. -/
def compactFields : List (String × Skeleton) → String
  | [] => ""
  | (name, value) :: fs => name ++ ": " ++ value.compact ++ compactMore fs

/-- The fields after the first one, each with the comma before it. -/
def compactMore : List (String × Skeleton) → String
  | [] => ""
  | (name, value) :: fs => "," ++ name ++ ": " ++ value.compact ++ compactMore fs

end

end Request.Skeleton

namespace GoText

open Skeleton

/-! ## What is left out -/

/-- A text without its newlines and tabs. -/
def unbroken (cs : List Char) : List Char :=
  cs.filter fun c => c ≠ '\n' ∧ c ≠ '\t'

/-- A text without its commas that stand directly before a closing brace. -/
def withoutLastCommas : List Char → List Char
  | [] => []
  | c :: cs =>
    if c = ',' ∧ cs.head? = some '\x7d' then withoutLastCommas cs else c :: withoutLastCommas cs

/-- A text without the space after each comma. -/
def unspaced : List Char → List Char
  | [] => []
  | ',' :: ' ' :: cs => ',' :: unspaced cs
  | c :: cs => c :: unspaced cs

/-- A text without its newlines and tabs, and without the commas that stand directly before a
closing brace then. -/
def squeezed (cs : List Char) : List Char :=
  withoutLastCommas (unbroken cs)

/-- A name without commas, closing braces, newlines and tabs. -/
def IsPlain (name : String) : Prop :=
  ∀ c ∈ name.toList, c ≠ ',' ∧ c ≠ '\x7d' ∧ c ≠ '\n' ∧ c ≠ '\t'

section Squeezed

variable {name : String} (cs rest : List Char) (n : Nat)

theorem squeezed_nil : squeezed [] = [] := rfl

theorem squeezed_newline : squeezed ('\n' :: rest) = squeezed rest := by
  simp [squeezed, unbroken]

theorem squeezed_tabs : squeezed ((tabs n).toList ++ rest) = squeezed rest := by
  simp [squeezed, unbroken, tabs]

/-- What is neither layout nor a comma stays. -/
theorem squeezed_cons {c : Char} (hcomma : c ≠ ',') (hline : c ≠ '\n') (htab : c ≠ '\t') :
    squeezed (c :: rest) = c :: squeezed rest := by
  simp [squeezed, unbroken, withoutLastCommas, hcomma, hline, htab]

theorem squeezed_append (h : ∀ c ∈ cs, c ≠ ',' ∧ c ≠ '\n' ∧ c ≠ '\t') :
    squeezed (cs ++ rest) = cs ++ squeezed rest := by
  induction cs with
  | nil => rfl
  | cons c cs ih =>
    obtain ⟨hcomma, hline, htab⟩ := h c List.mem_cons_self
    rw [List.cons_append, squeezed_cons _ hcomma hline htab,
      ih fun c hc => h c (List.mem_cons_of_mem _ hc), List.cons_append]

theorem squeezed_plain (h : IsPlain name) :
    squeezed (name.toList ++ rest) = name.toList ++ squeezed rest :=
  squeezed_append _ _ fun c hc => ⟨(h c hc).1, (h c hc).2.2⟩

theorem squeezed_comma : squeezed (',' :: rest) =
    if (unbroken rest).head? = some '\x7d' then squeezed rest else ',' :: squeezed rest := by
  simp [squeezed, unbroken, withoutLastCommas]

/-- The comma after the last field goes. -/
theorem squeezed_comma_brace : squeezed (',' :: '\n' :: ((tabs n).toList ++ '\x7d' :: rest)) =
    '\x7d' :: squeezed rest := by
  rw [squeezed_comma, if_pos (by simp [unbroken, tabs]), squeezed_newline, squeezed_tabs,
    squeezed_cons _ (by decide) (by decide) (by decide)]

/-- The start of a field stays, but for the tabs. -/
theorem squeezed_name (h : IsPlain name) :
    squeezed ((tabs n).toList ++ (name.toList ++ ':' :: ' ' :: rest)) =
      name.toList ++ ':' :: ' ' :: squeezed rest := by
  simp [squeezed_tabs, squeezed_plain _ h, squeezed_cons]

/-- The comma before a field stays. -/
theorem squeezed_comma_name (h : IsPlain name) :
    squeezed (',' :: '\n' :: ((tabs n).toList ++ (name.toList ++ ':' :: ' ' :: rest))) =
      ',' :: (name.toList ++ ':' :: ' ' :: squeezed rest) := by
  have hhead : (unbroken ('\n' :: ((tabs n).toList ++ (name.toList ++ ':' :: ' ' :: rest)))).head?
      ≠ some '\x7d' := by
    have hlayout : unbroken ('\n' :: ((tabs n).toList ++ (name.toList ++ ':' :: ' ' :: rest))) =
        unbroken (name.toList ++ ':' :: ' ' :: rest) := by
      simp [unbroken, tabs]
    rw [hlayout]
    cases hname : name.toList with
    | nil => simp [unbroken]
    | cons c cs =>
      obtain ⟨-, hbrace, hlayout⟩ := h c (hname ▸ List.mem_cons_self)
      simp [unbroken, hbrace, hlayout]
  rw [squeezed_comma, if_neg hhead, squeezed_newline, squeezed_name rest n h]

end Squeezed

section Unspaced

variable (cs rest : List Char)

theorem unspaced_comma : unspaced (',' :: ' ' :: rest) = ',' :: unspaced rest := by
  rw [unspaced]

/-- What is no comma stays, with a space after it. -/
theorem unspaced_cons {c : Char} (h : c ≠ ',') : unspaced (c :: rest) = c :: unspaced rest := by
  rw [unspaced]
  exact fun _ hcomma => absurd hcomma h

theorem unspaced_append (h : ∀ c ∈ cs, c ≠ ',') :
    unspaced (cs ++ rest) = cs ++ unspaced rest := by
  induction cs with
  | nil => rfl
  | cons c cs ih =>
    rw [List.cons_append, unspaced_cons _ (h c List.mem_cons_self),
      ih fun c hc => h c (List.mem_cons_of_mem _ hc), List.cons_append]

theorem unspaced_plain {name : String} (h : IsPlain name) :
    unspaced (name.toList ++ rest) = name.toList ++ unspaced rest :=
  unspaced_append _ _ fun c hc => (h c hc).1

end Unspaced

/-! ## The two texts of a skeleton -/

/-- The names of a skeleton are plain. -/
def PlainNames (names : List String) : Prop :=
  ∀ name ∈ names, IsPlain name

theorem plainNames_construct_iff {t : String} {fs : List (String × Skeleton)} :
    PlainNames (construct t fs).names ↔ IsPlain t ∧ PlainNames (namesOfFields fs) := by
  simp [PlainNames, names]

theorem plainNames_namesOfFields_cons_iff {name : String} {value : Skeleton}
    {fs : List (String × Skeleton)} : PlainNames (namesOfFields ((name, value) :: fs)) ↔
      IsPlain name ∧ PlainNames value.names ∧ PlainNames (namesOfFields fs) := by
  simp [PlainNames, namesOfFields, or_imp, forall_and]

mutual

/-- The text over several lines comes to the one without layout, whatever follows. -/
theorem squeezed_skeletonText_append : ∀ (sk : Skeleton), PlainNames sk.names →
    ∀ (indent : Nat) (rest : List Char),
      squeezed ((skeletonText indent sk).toList ++ rest) = sk.compact.toList ++ squeezed rest
  | .construct t [], h, indent, rest => by
    have ht : IsPlain t := h t List.mem_cons_self
    simp [skeletonText, compact, compactFields, squeezed_cons, squeezed_plain _ ht]
  | .construct t ((name, value) :: fs), h, indent, rest => by
    obtain ⟨ht, hfields⟩ := plainNames_construct_iff.1 h
    obtain ⟨hname, hvalue, hfs⟩ := plainNames_namesOfFields_cons_iff.1 hfields
    have ihvalue := squeezed_skeletonText_append value hvalue (indent + 1)
    have ihfs := squeezed_fieldTexts_append fs hfs indent rest
    simp [skeletonText, fieldTexts, compact, compactFields, squeezed_cons, squeezed_plain _ ht,
      squeezed_newline, squeezed_name _ _ hname, ihvalue, ihfs]
  | .emptyList t, h, indent, rest => by
    have ht : IsPlain t := h t List.mem_cons_self
    simp [skeletonText, compact, squeezed_cons, squeezed_plain _ ht]
  | .nothing, _, _, rest => by
    simp [skeletonText, compact, squeezed_cons]

/-- The rest of the fields, with the comma after the field before them. -/
theorem squeezed_fieldTexts_append : ∀ (fs : List (String × Skeleton)),
    PlainNames (namesOfFields fs) → ∀ (indent : Nat) (rest : List Char),
      squeezed (',' :: '\n' :: ((fieldTexts indent fs).toList
        ++ ((tabs indent).toList ++ '\x7d' :: rest))) =
        (compactMore fs).toList ++ '\x7d' :: squeezed rest
  | [], _, indent, rest => squeezed_comma_brace rest indent
  | (name, value) :: fs, h, indent, rest => by
    obtain ⟨hname, hvalue, hfs⟩ := plainNames_namesOfFields_cons_iff.1 h
    have ihvalue := squeezed_skeletonText_append value hvalue (indent + 1)
    have ihfs := squeezed_fieldTexts_append fs hfs indent rest
    simp [fieldTexts, compactMore, squeezed_comma_name _ _ hname, ihvalue, ihfs]

end

mutual

/-- The text on one line comes to the one without layout, whatever follows. -/
theorem unspaced_line_append : ∀ (sk : Skeleton), PlainNames sk.names → ∀ (rest : List Char),
    unspaced (sk.line.toList ++ rest) = sk.compact.toList ++ unspaced rest
  | .construct t fs, h, rest => by
    obtain ⟨ht, hfs⟩ := plainNames_construct_iff.1 h
    have ihfs := unspaced_fieldsLine_append fs hfs
    simp [line, compact, unspaced_cons, unspaced_plain _ ht, ihfs]
  | .emptyList t, h, rest => by
    have ht : IsPlain t := h t List.mem_cons_self
    simp [line, compact, unspaced_cons, unspaced_plain _ ht]
  | .nothing, _, rest => by
    simp [line, compact, unspaced_cons]

theorem unspaced_fieldsLine_append : ∀ (fs : List (String × Skeleton)),
    PlainNames (namesOfFields fs) → ∀ (rest : List Char),
      unspaced ((fieldsLine fs).toList ++ rest) = (compactFields fs).toList ++ unspaced rest
  | [], _, rest => rfl
  | (name, value) :: fs, h, rest => by
    obtain ⟨hname, hvalue, hfs⟩ := plainNames_namesOfFields_cons_iff.1 h
    have ihvalue := unspaced_line_append value hvalue
    have ihfs := unspaced_moreFields_append fs hfs
    simp [fieldsLine, compactFields, unspaced_cons, unspaced_plain _ hname, ihvalue, ihfs]

theorem unspaced_moreFields_append : ∀ (fs : List (String × Skeleton)),
    PlainNames (namesOfFields fs) → ∀ (rest : List Char),
      unspaced ((moreFields fs).toList ++ rest) = (compactMore fs).toList ++ unspaced rest
  | [], _, rest => rfl
  | (name, value) :: fs, h, rest => by
    obtain ⟨hname, hvalue, hfs⟩ := plainNames_namesOfFields_cons_iff.1 h
    have ihvalue := unspaced_line_append value hvalue
    have ihfs := unspaced_moreFields_append fs hfs
    simp [moreFields, compactMore, unspaced_comma, unspaced_cons, unspaced_plain _ hname, ihvalue,
      ihfs]

end

/-- Up to layout the text over several lines and the one on one line are the same, and neither the
indent nor anything but the types, the fields and their order counts for it. -/
theorem squeezed_skeletonText (sk : Skeleton) (h : PlainNames sk.names) (indent : Nat) :
    squeezed (skeletonText indent sk).toList = unspaced sk.line.toList ∧
      unspaced sk.line.toList = sk.compact.toList ∧
      ∀ other,
        squeezed (skeletonText other sk).toList = squeezed (skeletonText indent sk).toList := by
  have htext (n : Nat) : squeezed (skeletonText n sk).toList = sk.compact.toList := by
    have happend := squeezed_skeletonText_append sk h n []
    rwa [List.append_nil, squeezed_nil, List.append_nil] at happend
  have hline : unspaced sk.line.toList = sk.compact.toList := by
    have happend := unspaced_line_append sk h []
    rwa [List.append_nil, unspaced, List.append_nil] at happend
  refine ⟨(htext indent).trans hline.symm, hline, fun other => ?_⟩
  rw [htext other, htext indent]

/-- A message with two fields, one of which allocates its own. -/
def nestedRequest : Skeleton :=
  .construct "v1.Request"
    [("Page", .construct "Page" [("Sort", .emptyList "Key")]), ("Filter", .construct "Filter" [])]

theorem squeezed_nestedRequest :
    PlainNames nestedRequest.names ∧
      squeezed (skeletonText 1 nestedRequest).toList = unspaced nestedRequest.line.toList ∧
      nestedRequest.line =
        "&v1.Request\x7bPage: &Page\x7bSort: []*Key\x7b\x7d\x7d, Filter: &Filter\x7b\x7d\x7d" ∧
      skeletonText 1 nestedRequest =
        "&v1.Request\x7b\n\t\tPage: &Page\x7b\n\t\t\tSort: []*Key\x7b\x7d,\n\t\t\x7d,\n" ++
          "\t\tFilter: &Filter\x7b\x7d,\n\t\x7d" := by
  have hplain : PlainNames nestedRequest.names := by
    simp [PlainNames, IsPlain, nestedRequest, names, namesOfFields]
  have hagree := (squeezed_skeletonText nestedRequest hplain 1).1
  exact ⟨hplain, hagree, by decide +kernel, by decide +kernel⟩

end GoText

end ServiceCli
