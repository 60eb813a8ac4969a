import ServiceCli.Proofs.GoText.References
import ServiceCli.Text.Decimal

/-!
# Literals that Go reads back

Go reads an interpreted string literal element by element up to the first quote that no backslash
stands in front of. An element is a character that stands for itself, or an escape, which stands
for a character or for a single byte. `readLiteral?` follows these rules and gives the bytes of the
literal together with the text behind it.

`goString` uses few of them (`Escaped`). Each character is read back from what is written for it,
whatever comes next (`readElements_literalChar`), so a literal gives its text back in every
surrounding. `literals_read_back` says this of all literals of a generated file, which stand in
its `slots`.
-/

namespace ServiceCli.GoText

open Command Request Text

/-! ## Go's rules -/

/-- The character that a letter behind a backslash stands for. -/
def escapedLetter? : Char → Option Char
  | 'a' => some '\x07'
  | 'b' => some '\x08'
  | 'f' => some '\x0c'
  | 'n' => some '\n'
  | 'r' => some '\r'
  | 't' => some '\t'
  | 'v' => some '\x0b'
  | '\\' => some '\\'
  | '"' => some '"'
  | _ => none

/-- The number in the first `count` digits of a text. -/
def leadingNumber? (base : Nat) (digit : Char → Option Nat) (count : Nat) (cs : List Char) :
    Option Nat :=
  if count ≤ cs.length then digitsValue base digit 0 (cs.take count) else none

/-- The bytes of the character of that number. Half of a pair is no character. -/
def characterBytes? (n : Nat) : Option (List UInt8) :=
  if n.isValidChar then some (String.utf8EncodeChar (Char.ofNat n)) else none

/-- The byte of that number. -/
def singleByte? (n : Nat) : Option (List UInt8) :=
  if n < 256 then some [n.toUInt8] else none

/-- The bytes that an escape stands for, and how many characters it has behind its backslash:
a letter, two or three digits of a byte, or four or eight digits of a character. -/
def escape? : List Char → Option (List UInt8 × Nat)
  | [] => none
  | 'x' :: cs => ((leadingNumber? 16 hexDigit 2 cs).bind singleByte?).map (·, 3)
  | 'u' :: cs => ((leadingNumber? 16 hexDigit 4 cs).bind characterBytes?).map (·, 5)
  | 'U' :: cs => ((leadingNumber? 16 hexDigit 8 cs).bind characterBytes?).map (·, 9)
  | c :: cs =>
    match escapedLetter? c with
    | some e => some (String.utf8EncodeChar e, 1)
    | none => ((leadingNumber? 8 (digitBelow 8) 3 (c :: cs)).bind singleByte?).map (·, 3)

/-- Reads elements up to the quote that ends the literal, which has to stand on the same line. -/
def readElements : List Char → Option (List UInt8 × List Char)
  | [] => none
  | c :: cs =>
    if c = '"' then some ([], cs)
    else if c = '\n' then none
    else if c = '\\' then
      match escape? cs with
      | some (bytes, count) =>
        (readElements (cs.drop count)).map fun (more, rest) => (bytes ++ more, rest)
      | none => none
    else (readElements cs).map fun (more, rest) => (String.utf8EncodeChar c ++ more, rest)
termination_by cs => cs.length

/-- The bytes of the literal with which a text starts, and the text behind it. -/
def readLiteral? (text : String) : Option (ByteArray × String) :=
  match text.toList with
  | '"' :: cs => (readElements cs).map fun (bytes, rest) => (bytes.toByteArray, String.ofList rest)
  | _ => none

/-! ## What is written for a character -/

/-- The text between the quotes of a literal, if it consists of characters that are no quotes,
backslashes or controls, of five escapes by a letter, and of escapes by four digits. -/
inductive Escaped : List Char → Prop
  | nil : Escaped []
  | char {c : Char} {cs : List Char} : c ≠ '"' → c ≠ '\\' → 0x20 ≤ c.toNat →
    c.toNat < 0x7F ∨ 0xA0 ≤ c.toNat → Escaped cs → Escaped (c :: cs)
  | letter {c : Char} {cs : List Char} : c ∈ ['"', '\\', 'n', 'r', 't'] → Escaped cs →
    Escaped ('\\' :: c :: cs)
  | number {ds cs : List Char} : ds.length = 4 → (∀ d ∈ ds, (hexDigit d).isSome) → Escaped cs →
    Escaped ('\\' :: 'u' :: (ds ++ cs))

theorem hexDigit_hexDigitChar {n : Nat} (h : n < 16) : hexDigit (hexDigitChar n) = some n := by
  have hdigits : ∀ n < 16, hexDigit (hexDigitChar n) = some n := by decide
  exact hdigits n h

theorem isSome_hexDigit_of_mem_fourHexDigits {n : Nat} :
    ∀ d ∈ fourHexDigits n, (hexDigit d).isSome := by
  have hdigit (k : Nat) : (hexDigit (hexDigitChar (k % 16))).isSome := by
    rw [hexDigit_hexDigitChar (Nat.mod_lt k (by decide))]
    rfl
  simp [fourHexDigits, hdigit]

/-- Four digits are enough for a number below 65536. -/
theorem digitsValue_fourHexDigits {n : Nat} (h : n < 65536) :
    digitsValue 16 hexDigit 0 (fourHexDigits n) = some n := by
  have hdigit (k : Nat) : hexDigit (hexDigitChar (k % 16)) = some (k % 16) :=
    hexDigit_hexDigitChar (Nat.mod_lt k (by decide))
  simp only [fourHexDigits, digitsValue, hdigit, Option.bind_some, Option.some.injEq]
  omega

theorem isControl_iff {c : Char} :
    isControl c ↔ c.toNat < 0x20 ∨ 0x7F ≤ c.toNat ∧ c.toNat < 0xA0 := by
  simp [isControl]

/-- What is written for a character follows the rules of `Escaped`. -/
theorem escaped_literalChar (c : Char) {cs : List Char} (h : Escaped cs) :
    Escaped (literalChar c ++ cs) := by
  unfold literalChar
  split_ifs with hquote hslash hline hreturn htab hcontrol
  · exact .letter (by decide) h
  · exact .letter (by decide) h
  · exact .letter (by decide) h
  · exact .letter (by decide) h
  · exact .letter (by decide) h
  · exact .number rfl isSome_hexDigit_of_mem_fourHexDigits h
  · rw [isControl_iff] at hcontrol
    exact .char hquote hslash (by omega) (by omega) h

theorem escaped_flatMap_literalChar (cs : List Char) : Escaped (cs.flatMap literalChar) := by
  induction cs with
  | nil => exact .nil
  | cons c cs ih => exact escaped_literalChar c ih

/-- What is written for a control is an escape that stands for it. -/
theorem escape?_fourHexDigits {c : Char} (h : isControl c) (rest : List Char) :
    escape? ('u' :: (fourHexDigits c.toNat ++ rest)) = some (String.utf8EncodeChar c, 5) := by
  have hsmall : c.toNat < 65536 := by
    rw [isControl_iff] at h
    omega
  have hlength : (fourHexDigits c.toNat).length = 4 := rfl
  have hnumber : leadingNumber? 16 hexDigit 4 (fourHexDigits c.toNat ++ rest) = some c.toNat := by
    rw [leadingNumber?, if_pos (by simp [hlength]), ← hlength, List.take_left,
      digitsValue_fourHexDigits hsmall]
  have hvalid : c.toNat.isValidChar := c.valid
  rw [escape?, hnumber, Option.bind_some, characterBytes?, if_pos hvalid, Char.ofNat_toNat]
  rfl

/-- An escape is read as what it stands for, and reading goes on behind it. -/
theorem readElements_escape {cs rest : List Char} {bytes : List UInt8}
    (h : escape? (cs ++ rest) = some (bytes, cs.length)) :
    readElements ('\\' :: cs ++ rest)
      = (readElements rest).map fun (more, after) => (bytes ++ more, after) := by
  rw [List.cons_append, readElements, if_neg (by decide), if_neg (by decide), if_pos rfl, h]
  dsimp only
  rw [List.drop_left]

/-- A character is read back from what is written for it, and reading goes on behind that. -/
theorem readElements_literalChar (c : Char) (rest : List Char) :
    readElements (literalChar c ++ rest)
      = (readElements rest).map fun (more, after) => (String.utf8EncodeChar c ++ more, after) := by
  unfold literalChar
  split_ifs with hquote hslash hline hreturn htab hcontrol
  · rw [hquote]
    exact readElements_escape rfl
  · rw [hslash]
    exact readElements_escape rfl
  · rw [hline]
    exact readElements_escape rfl
  · rw [hreturn]
    exact readElements_escape rfl
  · rw [htab]
    exact readElements_escape rfl
  · exact readElements_escape (escape?_fourHexDigits hcontrol rest)
  · rw [List.singleton_append, readElements, if_neg hquote, if_neg hline, if_neg hslash]

/-- Go reads a literal as its text and stops behind it, whatever follows. -/
theorem readLiteral?_goString_append (s rest : String) :
    readLiteral? (goString s ++ rest) = some (s.toByteArray, rest) := by
  have hinner (cs : List Char) : readElements (cs.flatMap literalChar ++ '"' :: rest.toList)
      = some (cs.flatMap String.utf8EncodeChar, rest.toList) := by
    induction cs with
    | nil => rw [List.flatMap_nil, List.nil_append, readElements, if_pos rfl, List.flatMap_nil]
    | cons c cs ih =>
      rw [List.flatMap_cons, List.append_assoc, readElements_literalChar, ih, List.flatMap_cons]
      rfl
  have htext : (goString s ++ rest).toList
      = '"' :: (s.toList.flatMap literalChar ++ '"' :: rest.toList) := by
    simp [toList_goString]
  have hbytes : (s.toList.flatMap String.utf8EncodeChar).toByteArray = s.toByteArray :=
    String.utf8Encode_toList
  rw [readLiteral?, htext]
  simp [hinner, hbytes]

/-! ## Literals in a file -/

/-- A place in a text at which a value stands as a literal, with what is around it. -/
structure Slot where
  lead : String
  value : String
  tail : String
  deriving DecidableEq, Repr

/-- What stands at a place. -/
def Slot.text (s : Slot) : String :=
  s.lead ++ goString s.value ++ s.tail

/-- Somewhere behind the lead of the slot Go reads a literal of its value, and what is left then
starts with the tail of the slot. -/
def Holds (text : String) (s : Slot) : Prop :=
  ∃ before literal after, text = before ++ s.lead ++ literal ++ s.tail ++ after ∧
    readLiteral? (literal ++ s.tail ++ after) = some (s.value.toByteArray, s.tail ++ after)

/-- The place of the path of an import. -/
def importSlot (i : GoImport) : Slot :=
  ⟨"\t" ++ i.name ++ " ", i.path, "\n"⟩

/-- The places of the name and the help of a flag. -/
def flagSlots : Flag → List Slot
  | .bind kind target flagName help => [
    ⟨"\tcmd.PersistentFlags()." ++ kind.binder ++ "(&" ++ target ++ ", ", flagName,
      ", " ++ kind.defaultLiteral ++ ", "⟩,
    ⟨", " ++ kind.defaultLiteral ++ ", ", help, ")\n"⟩]
  | .unsupported _ => []

/-- The places of the settings of a service and of the names and texts of its commands. -/
def unitSlots : CommandUnit → List Slot
  | .group g => [
    ⟨"\t\tServerAddr:     ", g.defaults.serverAddr, ","⟩,
    ⟨"\t\tResponseFormat: ", g.defaults.responseFormat, ","⟩,
    ⟨"\t\tAuthTokenType:  ", g.defaults.authTokenType, ","⟩,
    ⟨"\t\tUse: ", g.useName, ","⟩]
  | .subcommand c =>
    ⟨"\t\tUse:  ", c.useName, ","⟩ :: ⟨"\t\tLong: ", c.long, ","⟩ :: c.flags.flatMap flagSlots
  | .subcommandList _ _ => []

/-- The places of all values that a file has as literals. -/
def slots (f : GoFile) : List Slot :=
  f.imports.map importSlot ++ f.units.flatMap unitSlots

/-- One text stands in another. -/
def Contains (text part : String) : Prop :=
  ∃ before after, text = before ++ part ++ after

section Contains

variable {a b c text line : String} {ts : List String} {s : Slot}

theorem Contains.trans (hab : Contains a b) (hbc : Contains b c) : Contains a c := by
  obtain ⟨before, after, rfl⟩ := hab
  obtain ⟨before', after', rfl⟩ := hbc
  exact ⟨before ++ before', after' ++ after, by simp only [String.append_assoc]⟩

theorem Contains.append (h : Contains a c) (b : String) : Contains (a ++ b) c := by
  obtain ⟨before, after, rfl⟩ := h
  exact ⟨before, after ++ b, by simp only [String.append_assoc]⟩

theorem Contains.prepend (a : String) (h : Contains b c) : Contains (a ++ b) c := by
  obtain ⟨before, after, rfl⟩ := h
  exact ⟨a ++ before, after, by simp only [String.append_assoc]⟩

theorem contains_join (h : a ∈ ts) : Contains (String.join ts) a := by
  obtain ⟨before, after, rfl⟩ := List.append_of_mem h
  refine ⟨String.join before, String.join after, ?_⟩
  rw [String.join_append, String.join_cons, ← String.append_assoc]

theorem HasLine.contains (h : HasLine text line) : Contains text line := by
  obtain ⟨before, after, rfl, -⟩ := h
  exact ⟨before, "\n" ++ after, by simp only [String.append_assoc]⟩

/-- Whatever is around a place, Go reads there what it is meant to. -/
theorem Contains.holds (h : Contains text s.text) : Holds text s := by
  obtain ⟨before, after, rfl⟩ := h
  refine ⟨before, goString s.value, after, by simp only [Slot.text, String.append_assoc], ?_⟩
  rw [String.append_assoc, readLiteral?_goString_append]

end Contains

/-- Each import has its line in the import block, in one of the two groups. -/
theorem contains_importBlock {is : List GoImport} {i : GoImport} (h : i ∈ is) :
    Contains (importBlock is) (importSlot i).text := by
  have hgroup {p : GoImport → Bool} (hp : p i) :
      Contains (String.join ((byPath (is.filter p)).map importLine)) (importLine i) :=
    contains_join (List.mem_map_of_mem (List.mem_mergeSort.2 (List.mem_filter.2 ⟨h, hp⟩)))
  change Contains (importBlock is) (importLine i)
  unfold importBlock
  by_cases hstandard : i.isStandard
  · exact ((((hgroup hstandard).prepend _).append _).append _).append _
  · exact ((hgroup (by simpa using hstandard)).prepend _).append _

theorem contains_flagLine {flag : Flag} {s : Slot} (h : s ∈ flagSlots flag) :
    Contains (flagLine flag) s.text := by
  cases flag with
  | unsupported note => cases h
  | bind kind target flagName help =>
    rw [flagSlots, List.mem_cons, List.mem_singleton] at h
    rcases h with rfl | rfl
    · refine ⟨"", goString help ++ ")\n", ?_⟩
      unfold flagLine Slot.text
      simp only [String.append_assoc, String.empty_append]
    · refine ⟨"\tcmd.PersistentFlags()." ++ kind.binder ++ "(&" ++ target ++ ", "
        ++ goString flagName, "", ?_⟩
      unfold flagLine Slot.text
      simp only [String.append_assoc, String.append_empty]

/-- A line of the template in which one value stands as a literal. -/
theorem contains_groupText {g : ServiceGroup} {lead value : String} (key : String)
    (hline : lead ++ key ++ "," ∈ groupLines) (hlead : '$' ∉ lead.toList)
    (hkey : key.toList.head? = some '$')
    (htoken : ∀ cs, tokenAt ((groupTokens g).map fun t => (t.1.toList, t.2.toList))
      (key.toList ++ cs) = some ((goString value).toList, cs)) :
    Contains (groupText g) (Slot.text ⟨lead, value, ","⟩) := by
  have hfill := (hasLine_groupText g hline).contains
  rwa [fill_token hlead hkey htoken, fill_of_notMem _ (by simp)] at hfill

theorem contains_unitText {u : CommandUnit} {s : Slot} (h : s ∈ unitSlots u) :
    Contains (unitText u) s.text := by
  cases u with
  | subcommandList service constructors => cases h
  | group g =>
    simp only [unitSlots, List.mem_cons, List.not_mem_nil, or_false] at h
    rcases h with rfl | rfl | rfl | rfl
    · exact contains_groupText "$SERVER_ADDR" (by simp [groupLines, configConstructor])
        (by simp) (by simp) fun _ => by simp [tokenAt, groupTokens, after?]
    · exact contains_groupText "$RESPONSE_FORMAT" (by simp [groupLines, configConstructor])
        (by simp) (by simp) fun _ => by simp [tokenAt, groupTokens, after?]
    · exact contains_groupText "$AUTH_TOKEN_TYPE" (by simp [groupLines, configConstructor])
        (by simp) (by simp) fun _ => by simp [tokenAt, groupTokens, after?]
    · exact contains_groupText "$USE" (by simp [groupLines, groupCommand])
        (by simp) (by simp) fun _ => by simp [tokenAt, groupTokens, after?]
  | subcommand c =>
    have hlines {line : String} {ls : List String} (hline : line ∈ ls) : Contains (lines ls) line :=
      (hasLine_lines hline).contains
    change Contains (subcommandText c) s.text
    unfold subcommandText
    rcases List.mem_cons.1 h with rfl | h
    · exact (((((hlines (by simp [Slot.text])).append _).append _).append _).append _).append _
    · rcases List.mem_cons.1 h with rfl | h
      · exact (((((hlines (by simp [Slot.text])).append _).append _).append _).append _).append _
      · obtain ⟨flag, hflag, hs⟩ := List.mem_flatMap.1 h
        have hflags : Contains (flagLines c.flags) s.text :=
          (contains_join (List.mem_map_of_mem hflag)).trans (contains_flagLine hs)
        exact (hflags.prepend _).append _

/-- Each place is in the text of the file. -/
theorem contains_fileText {f : GoFile} {s : Slot} (h : s ∈ slots f) :
    Contains (fileText f) s.text := by
  rcases List.mem_append.1 h with h | h
  · obtain ⟨i, hi, rfl⟩ := List.mem_map.1 h
    exact ((contains_importBlock hi).prepend _).append _
  · obtain ⟨u, hu, hs⟩ := List.mem_flatMap.1 h
    have hunit : Contains (fileText f) (unitText u) := exists_fileText_eq hu
    exact hunit.trans (contains_unitText hs)

/-- A literal starts and ends with a quote and has in between only what `Escaped` allows. Go reads
it as its text and stops right behind it, whatever follows, so different texts have different
literals. In a file this is so at every place at which a value stands as a literal: no name, help
text, path or setting ends its literal before its end. -/
theorem literals_read_back (f : GoFile) :
    (∀ s, ∃ inner, (goString s).toList = '"' :: inner ++ ['"'] ∧ Escaped inner) ∧
    (∀ s rest, readLiteral? (goString s ++ rest) = some (s.toByteArray, rest)) ∧
    Function.Injective goString ∧ ∀ slot ∈ slots f, Holds (fileText f) slot := by
  refine ⟨fun s => ⟨_, toList_goString s, escaped_flatMap_literalChar _⟩,
    readLiteral?_goString_append, fun s t h => ?_, fun slot hslot => (contains_fileText hslot).holds⟩
  have hs := readLiteral?_goString_append s ""
  have ht := readLiteral?_goString_append t ""
  rw [h] at hs
  exact String.toByteArray_inj.1 (Prod.mk.inj (Option.some.inj (hs.symm.trans ht))).1

/-- The place of a help text with quotes, a backslash, the end of a line and a control. -/
def bellSlot : Slot :=
  ⟨", \"\", ", "ring \"twice\"\\\n\x07", ")\n"⟩

/-- A file with that help text. -/
def bell : GoFile where
  source := "bell.proto"
  outputName := "bell.cobra.pb.go"
  package := "bell"
  imports := []
  units := [.subcommand {
    service := "Bell", method := "Ring", constructor := "_BellRingClientCommand", useName := "ring"
    long := "Ring client", inputType := "Tone", init := .bare "Tone"
    flags := [.bind .string "reqArgs.Pitch" "pitch" "ring \"twice\"\\\n\x07"]
    mode := .unary, steps := StreamingMode.unary.dispatch }]

theorem literals_read_back_bell :
    goString "ring \"twice\"\\\n\x07" = "\"ring \\\"twice\\\"\\\\\\n\\u0007\"" ∧
      bellSlot ∈ slots bell ∧ Holds (fileText bell) bellSlot := by
  have hslot : bellSlot ∈ slots bell := by decide
  exact ⟨by decide, hslot, (literals_read_back bell).2.2.2 bellSlot hslot⟩

end ServiceCli.GoText
