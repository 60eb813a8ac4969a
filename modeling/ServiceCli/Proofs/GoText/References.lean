import ServiceCli.Proofs.GoText.Named

/-!
# How the parts of a service refer to one another

The text of a group declares the function that makes a call (`hasLine_roundTrip`) and registers the
subcommands in a list that it does not declare (`hasLine_registration`). The text of a subcommand
declares its constructor and calls the function of its service (`hasLine_constructor`,
`hasLine_callLine`), and that of a list declares the list and names constructors
(`hasLine_list`, `hasLine_listed`). So the texts of a service fit together if the names in its
parts do. Between its constructor and its call, a subcommand names the type of its request twice
(`exists_subcommandText_eq`).
-/

namespace ServiceCli.GoText

open Command Text

/-! ## Lines of a text -/

/-- The text has the line. -/
def HasLine (text line : String) : Prop :=
  ∃ before after, text = before ++ (line ++ "\n") ++ after ∧ (before = "" ∨ EndsLine before)

section HasLine

variable {a b l : String} {ls : List String}

theorem HasLine.append (h : HasLine a l) (b : String) : HasLine (a ++ b) l := by
  obtain ⟨before, after, rfl, hbefore⟩ := h
  exact ⟨before, after ++ b, String.append_assoc, hbefore⟩

theorem HasLine.prepend (h : HasLine b l) (ha : EndsLine a) : HasLine (a ++ b) l := by
  obtain ⟨before, after, rfl, hbefore⟩ := h
  refine ⟨a ++ before, after, by simp only [String.append_assoc], Or.inr ?_⟩
  rcases hbefore with rfl | hbefore
  · rwa [String.append_empty]
  · exact hbefore.append a

theorem hasLine_lines (h : l ∈ ls) : HasLine (lines ls) l := by
  induction ls with
  | nil => cases h
  | cons l' ls ih =>
    rw [lines_cons]
    rcases List.mem_cons.1 h with rfl | h
    · exact ⟨"", lines ls, by simp, Or.inl rfl⟩
    · exact (ih h).prepend ⟨l', rfl⟩

end HasLine

/-! ## Groups -/

/-- The line that starts the function which makes the calls of a service. -/
def roundTripLine (service : String) : String :=
  "func _" ++ service ++ ("RoundTrip(sample interface\x7b\x7d, fn _" ++ service
    ++ "RoundTripFunc) error \x7b")

/-- The line that declares what a subcommand hands to this function: it is given a client. -/
def callTypeLine (service : String) : String :=
  "type _" ++ service ++ ("RoundTripFunc func(cli " ++ service
    ++ "Client, in iocodec.Decoder, out iocodec.Encoder) error")

/-- The line that starts the loop over the subcommands of a service. -/
def registrationLine (service : String) : String :=
  "\tfor _, s := range _" ++ service ++ "ClientSubCommands \x7b"

section Group

variable (g : ServiceGroup)

theorem hasLine_groupText {l : String} (h : l ∈ groupLines) :
    HasLine (groupText g) (fill l (groupTokens g)) := by
  rw [groupText_eq_lines]
  exact hasLine_lines (List.mem_map_of_mem h)

theorem hasLine_roundTrip : HasLine (groupText g) (roundTripLine g.name) := by
  have hline : roundTripLine "$NAME" ∈ roundTrip := by
    unfold roundTripLine
    simp [roundTrip]
  have hfill := hasLine_groupText g (List.mem_append_right _ hline)
  unfold roundTripLine at hfill
  rwa [fill_name g (by simp), fill_name g (by simp), fill_of_notMem _ (by simp)] at hfill

theorem hasLine_callType : HasLine (groupText g) (callTypeLine g.name) := by
  have hline : callTypeLine "$NAME" ∈ roundTripType := by
    unfold callTypeLine
    simp [roundTripType]
  have hfill := hasLine_groupText g (List.mem_append_left _ (List.mem_append_right _ hline))
  unfold callTypeLine at hfill
  rwa [fill_name g (by simp), fill_name g (by simp), fill_of_notMem _ (by simp)] at hfill

theorem hasLine_registration : HasLine (groupText g) (registrationLine g.name) := by
  have hline : registrationLine "$NAME" ∈ groupCommand := by
    unfold registrationLine
    simp [groupCommand]
  have hfill := hasLine_groupText g (List.mem_append_left _ (List.mem_append_left _
    (List.mem_append_left _ (List.mem_append_right _ hline))))
  unfold registrationLine at hfill
  rwa [fill_name g (by simp), fill_of_notMem _ (by simp)] at hfill

end Group

/-! ## Subcommands and their list -/

/-- The line that starts the function which makes a subcommand. -/
def constructorLine (constructor : String) : String :=
  "func " ++ constructor ++ "() *cobra.Command \x7b"

/-- The line that starts the list of the functions which make the subcommands of a service. -/
def listLine (service : String) : String :=
  "var _" ++ service ++ "ClientSubCommands = []func() *cobra.Command\x7b"

/-- The line for one function of the list. -/
def listedLine (constructor : String) : String :=
  "\t" ++ constructor ++ ","

/-- The start of the line on which the request of a subcommand is allocated. -/
def allocationStart (typeName : String) : String :=
  "\treqArgs := &" ++ typeName ++ "\x7b"

/-- The line that declares the variable into which a request is read. -/
def variableLine (typeName : String) : String :=
  "\t\t\tvar v " ++ typeName

section Subcommand

variable (c : Subcommand)

theorem hasLine_constructor : HasLine (subcommandText c) (constructorLine c.constructor) := by
  unfold subcommandText
  exact (((((hasLine_lines List.mem_cons_self).append _).append _).append _).append _).append _

theorem hasLine_callLine : HasLine (subcommandText c) (callLine c.service) := by
  unfold subcommandText
  exact (((((hasLine_lines (by simp)).append _).append _).append _).append _).append _

theorem exists_skeletonText_construct (indent : Nat) (typeName : String)
    (fields : List (String × Request.Skeleton)) :
    ∃ rest, skeletonText indent (.construct typeName fields)
      = "&" ++ typeName ++ "\x7b" ++ rest := by
  cases fields with
  | nil => exact ⟨"\x7d", by simp [skeletonText, ← String.toList_inj]⟩
  | cons f fs =>
    refine ⟨"\n" ++ fieldTexts indent (f :: fs) ++ tabs indent ++ "\x7d", ?_⟩
    simp [skeletonText, ← String.toList_inj]

/-- The text of a subcommand starts with its constructor, which allocates the request at once and
declares the variable for another one on the line before the call. -/
theorem exists_subcommandText_eq {typeName : String} {fields : List (String × Request.Skeleton)}
    (h : c.init = .construct typeName fields) :
    ∃ before after, EndsLine before ∧
      subcommandText c = constructorLine c.constructor ++ "\n" ++ allocationStart typeName ++ before
        ++ variableLine c.inputType ++ "\n" ++ callLine c.service ++ "\n" ++ after := by
  obtain ⟨rest, hrest⟩ := exists_skeletonText_construct 1 typeName fields
  refine ⟨(rest ++ "\n") ++ lines ["", "\tcmd := &cobra.Command\x7b",
      "\t\tUse:  " ++ goString c.useName ++ ",", "\t\tLong: " ++ goString c.long ++ ",",
      "\t\tRun: func(cmd *cobra.Command, args []string) \x7b"],
    lines (c.steps.flatMap (stepLines c.method))
      ++ lines ["\t\t\t\x7d)", "\t\t\tif err != nil \x7b", "\t\t\t\tlog.Fatal(err)", "\t\t\t\x7d",
        "\t\t\x7d,", "\t\x7d"]
      ++ (if c.flags.isEmpty then "" else "\n") ++ flagLines c.flags
      ++ lines ["", "\treturn cmd", "\x7d"],
    (endsLine_lines (List.cons_ne_nil _ _)).append _, ?_⟩
  have halloc : "\treqArgs := " ++ skeletonText 1 c.init = allocationStart typeName ++ rest := by
    rw [h, hrest, allocationStart, ← String.toList_inj]
    simp
  have hnil : lines [] = "" := rfl
  unfold subcommandText
  rw [halloc]
  simp only [lines_cons, hnil, String.append_assoc, String.empty_append, constructorLine,
    variableLine]

end Subcommand

section List

variable (service : String) {constructors : List String}

theorem hasLine_list : HasLine (subcommandListText service constructors) (listLine service) :=
  hasLine_lines List.mem_cons_self

theorem hasLine_listed {constructor : String} (h : constructor ∈ constructors) :
    HasLine (subcommandListText service constructors) (listedLine constructor) :=
  hasLine_lines (by simp [listedLine, h])

end List

/-! ## Files -/

/-- The text of each part stands in the text of the file. -/
theorem exists_fileText_eq {f : GoFile} {u : CommandUnit} (hu : u ∈ f.units) :
    ∃ before after, fileText f = before ++ unitText u ++ after := by
  obtain ⟨us, us', hunits⟩ := List.append_of_mem hu
  refine ⟨heading f.source f.package ++ importBlock f.imports ++ versionAssertion
      ++ String.join (us.map fun u => "\n" ++ unitText u) ++ "\n",
    String.join (us'.map fun u => "\n" ++ unitText u), ?_⟩
  simp only [fileText, body, hunits, List.map_append, List.map_cons, String.join_append,
    String.join_cons, String.append_assoc]

end ServiceCli.GoText
