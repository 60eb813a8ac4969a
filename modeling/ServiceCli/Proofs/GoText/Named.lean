import ServiceCli.GoText.File
import ServiceCli.Proofs.GoText.Mute

/-!
# What the parts of a file name

The text of a file after its imports is read part by part (`qualifies_body`,
`exists_of_qualifies_body`). What every service has in common names the packages in `groupImports`
(`qualifies_groupText`) and none of those in `callImports` (`not_qualifies_groupText`). These are
named by subcommands: where the call has failed (`qualifies_log`), where a request is sent
(`qualifies_proto`) and where the method is called (`qualifies_context`). A subcommand with a stream
names one package more (`qualifies_streamImport`), and so does a type from another package
(`qualifies_inputType`).
-/

namespace ServiceCli.GoText

open Command Text

/-! ## Parts of a file -/

theorem lines_append (ls ls' : List String) : lines (ls ++ ls') = lines ls ++ lines ls' := by
  simp [lines, String.join_append]

theorem groupText_eq_lines (g : ServiceGroup) :
    groupText g = lines (groupLines.map fun l => fill l (groupTokens g)) :=
  fill_lines (by simp [groupTokens]) groupLines

theorem endsLine_unitText (u : CommandUnit) : EndsLine (unitText u) := by
  cases u with
  | group g =>
    rw [unitText, groupText_eq_lines]
    exact endsLine_lines (List.cons_ne_nil _ _)
  | subcommand c => exact (endsLine_lines (List.cons_ne_nil _ _)).append _
  | subcommandList service constructors => exact endsLine_lines (List.cons_ne_nil _ _)

section Body

variable {name : String} {units : List CommandUnit}

theorem endsLine_of_mem_parts {t : String} (h : t ∈ units.map fun u => "\n" ++ unitText u) :
    EndsLine t := by
  obtain ⟨u, -, rfl⟩ := List.mem_map.1 h
  exact (endsLine_unitText u).append "\n"

/-- What qualifies in a part does so in the file. -/
theorem qualifies_body {u : CommandUnit} (hu : u ∈ units) (h : Qualifies name (unitText u)) :
    Qualifies name (body units) := by
  have hpart : Qualifies name ("\n" ++ unitText u) := h.prepend ⟨"", rfl⟩
  exact (hpart.join (fun _ => endsLine_of_mem_parts) (List.mem_map_of_mem hu)).prepend
    (endsLine_lines (List.cons_ne_nil _ _))

theorem exists_of_qualifies_body (hname : '\n' ∉ name.toList) (h : Qualifies name (body units)) :
    Qualifies name versionAssertion ∨ ∃ u ∈ units, Qualifies name (unitText u) := by
  obtain ⟨start, hstart⟩ : EndsLine versionAssertion := endsLine_lines (List.cons_ne_nil _ _)
  rw [body, hstart] at h
  rcases qualifies_or_of_newline hname h with hassert | hparts
  · rw [hstart]
    exact Or.inl (hassert.append "\n")
  · obtain ⟨t, ht, hq⟩ := exists_of_qualifies_join hname (fun _ => endsLine_of_mem_parts) hparts
    obtain ⟨u, hu, rfl⟩ := List.mem_map.1 ht
    have hpart : Qualifies name ("" ++ "\n" ++ unitText u) := by simpa using hq
    rcases qualifies_or_of_newline hname hpart with hempty | hunit
    · exact absurd hempty (not_qualifies_empty name)
    · exact Or.inr ⟨u, hu, hunit⟩

end Body

/-! ## Service groups -/

/-- Names of packages, each with a line of every service group that needs the package. -/
def groupUses : List (String × String) := [
  ("tls", "\t\ttlsConfig := &tls.Config\x7b\x7d"),
  ("x509", "\t\t\tcertpool := x509.NewCertPool()"),
  ("fmt", "\t\t\t\treturn nil, nil, fmt.Errorf(\"missing key file\")"),
  ("ioutil", "\t\t\tcacert, err := ioutil.ReadFile(cfg.CACertFile)"),
  ("net", "\t\t\taddr, _, _ := net.SplitHostPort(cfg.ServerAddr)"),
  ("os", "\t\tf, err := os.Open(cfg.RequestFile)"),
  ("filepath", "\t\text := filepath.Ext(cfg.RequestFile)"),
  ("time", "\tTimeout            time.Duration"),
  ("cobra", "\tcmd := &cobra.Command\x7b"),
  ("iocodec", "\tvar em iocodec.EncoderMaker"),
  ("oauth2", "\t\tcred := oauth.NewOauthAccess(&oauth2.Token\x7b"),
  ("grpc", "\topts := []grpc.DialOption\x7b"),
  ("credentials", "\t\tcred := credentials.NewTLS(tlsConfig)"),
  ("oauth", "\t\tcred := oauth.NewOauthAccess(&oauth2.Token\x7b")]

/-- The names of the packages that every service needs. -/
def groupImports : List String :=
  "pflag" :: groupUses.map Prod.fst

/-- The names of the packages that only subcommands need. -/
def callImports : List String := ["log", "proto", "context"]

theorem qualifies_groupText_of_mem {g : ServiceGroup} {name l : String} (hl : l ∈ groupLines)
    (h : Qualifies name (fill l (groupTokens g))) : Qualifies name (groupText g) := by
  rw [groupText_eq_lines]
  exact qualifies_lines (List.mem_map_of_mem hl) h

theorem mem_groupLines_of_mem_groupUses : ∀ u ∈ groupUses, u.2 ∈ groupLines := by
  simp [groupUses, groupLines, configType, groupCommand, dialing, roundTrip]

theorem forall_uses_cons {name cs : List Char} {us : List (String × String)} (hfixed : '$' ∉ cs)
    (h : qualifiesFrom name [] cs) (hus : ∀ u ∈ us, '$' ∉ u.2.toList ∧ Qualifies u.1 u.2) :
    ∀ u ∈ (String.ofList name, String.ofList cs) :: us, '$' ∉ u.2.toList ∧ Qualifies u.1 u.2 :=
  List.forall_mem_cons.2 ⟨⟨by rwa [String.toList_ofList], qualifies_ofList h⟩, hus⟩

/-- The lines have nothing to be filled in and name the packages. -/
theorem qualifies_of_mem_groupUses :
    ∀ u ∈ groupUses, '$' ∉ u.2.toList ∧ Qualifies u.1 u.2 := by
  unfold groupUses
  repeat'
    first
      | exact List.forall_mem_nil _
      | refine forall_uses_cons (by decide) (by decide +kernel) ?_

/-- The name of the group is put in for its token. -/
theorem fill_name (g : ServiceGroup) {before : String} (h : '$' ∉ before.toList) (rest : String) :
    fill (before ++ "$NAME" ++ rest) (groupTokens g)
      = before ++ g.name ++ fill rest (groupTokens g) :=
  fill_token h (by simp) (fun _ => by simp [tokenAt, groupTokens, after?]) rest

/-- The line that starts the registration of the flags, which is the only one to name its
package. -/
theorem fill_flagRegistration (g : ServiceGroup) :
    fill "func (o *_$NAMEClientCommandConfig) AddFlags(fs *pflag.FlagSet) \x7b" (groupTokens g)
      = "func (o *_" ++ g.name ++ "ClientCommandConfig) AddFlags(fs *" ++ "pflag" ++ "."
        ++ "FlagSet) \x7b" := by
  have hline : "func (o *_$NAMEClientCommandConfig) AddFlags(fs *pflag.FlagSet) \x7b"
      = "func (o *_" ++ "$NAME" ++ "ClientCommandConfig) AddFlags(fs *pflag.FlagSet) \x7b" := by
    simp
  rw [hline, fill_name g (by simp), fill_of_notMem _ (by simp), ← String.toList_inj]
  simp

theorem qualifies_groupText {g : ServiceGroup} (hg : ∀ c ∈ g.name.toList, isIdentifierPart c)
    {name : String} (h : name ∈ groupImports) : Qualifies name (groupText g) := by
  rcases List.mem_cons.1 h with rfl | h
  · have hl : "func (o *_$NAMEClientCommandConfig) AddFlags(fs *pflag.FlagSet) \x7b" ∈ groupLines := by
      simp [groupLines, flagRegistration]
    refine qualifies_groupText_of_mem hl ?_
    rw [fill_flagRegistration]
    exact qualifies_behind_name (by decide) hg (by simp) (by decide) (by decide) _
  · obtain ⟨⟨name, l⟩, hu, rfl⟩ := List.mem_map.1 h
    obtain ⟨hfixed, hq⟩ := qualifies_of_mem_groupUses _ hu
    refine qualifies_groupText_of_mem (mem_groupLines_of_mem_groupUses _ hu) ?_
    rwa [fill_of_notMem _ hfixed]

theorem forall_ofList {p : List Char → Bool} {cs : List Char} {ls : List String} (h : p cs)
    (hs : ∀ l ∈ ls, p l.toList) : ∀ l ∈ String.ofList cs :: ls, p l.toList := by
  refine List.forall_mem_cons.2 ⟨?_, hs⟩
  rwa [String.toList_ofList]

/-- The names of `callImports`, as lists of characters. -/
def callNames : List (List Char) :=
  [['l', 'o', 'g'], ['p', 'r', 'o', 't', 'o'], ['c', 'o', 'n', 't', 'e', 'x', 't']]

/-- The words of the template that stand for something else, as lists of characters. -/
def groupKeys : List (List Char) := [
  ['$', 'S', 'E', 'R', 'V', 'E', 'R', '_', 'A', 'D', 'D', 'R'],
  ['$', 'R', 'E', 'S', 'P', 'O', 'N', 'S', 'E', '_', 'F', 'O', 'R', 'M', 'A', 'T'],
  ['$', 'T', 'I', 'M', 'E', 'O', 'U', 'T', '_', 'S', 'E', 'C', 'S'],
  ['$', 'A', 'U', 'T', 'H', '_', 'T', 'O', 'K', 'E', 'N', '_', 'T', 'Y', 'P', 'E'],
  ['$', 'U', 'S', 'E'],
  ['$', 'N', 'A', 'M', 'E']]

theorem keys_groupTokens (g : ServiceGroup) :
    (groupTokens g).map (fun t => t.1.toList) = groupKeys := by
  simp [groupTokens, groupKeys]

theorem toList_mem_callNames {name : String} (h : name ∈ callImports) :
    name.toList ∈ callNames := by
  simp only [callImports, List.mem_cons, List.not_mem_nil, or_false] at h
  rcases h with rfl | rfl | rfl <;> simp [callNames]

theorem isIdentifierPart_of_mem_callNames {name : List Char} (h : name ∈ callNames) :
    ∀ c ∈ name, isIdentifierPart c := by
  have hall : callNames.all fun name => name.all isIdentifierPart := by decide
  exact List.all_eq_true.1 (List.all_eq_true.1 hall name h)

theorem newline_notMem_of_mem_callNames {name : List Char} (h : name ∈ callNames) :
    '\n' ∉ name :=
  fun hline => absurd (isIdentifierPart_of_mem_callNames h _ hline) (by decide)

/-- Whether a line names nothing of `callImports`. -/
def quietLine (cs : List Char) : Bool :=
  callNames.all fun name => !qualifiesFrom name [] cs

/-- Whether a line of a template names nothing of `callImports`, whatever is filled in. -/
def quietTemplate (cs : List Char) : Bool :=
  callNames.all fun name => silent name .code [] (parts groupKeys cs)

set_option maxRecDepth 2000 in
theorem quiet_groupLines : ∀ l ∈ groupLines, quietTemplate l.toList := by
  simp only [groupLines, List.forall_mem_append]
  refine ⟨⟨⟨⟨⟨⟨⟨?_, ?_⟩, ?_⟩, ?_⟩, ?_⟩, ?_⟩, ?_⟩, ?_⟩
  all_goals
    first
      | unfold configVariable | unfold configType | unfold configConstructor
      | unfold flagRegistration | unfold groupCommand | unfold dialing | unfold roundTripType
      | unfold roundTrip
    repeat' first | exact List.forall_mem_nil _ | refine forall_ofList (by decide +kernel) ?_

theorem mute_groupTokens {g : ServiceGroup} (hg : ∀ c ∈ g.name.toList, isIdentifierPart c) :
    ∀ t ∈ groupTokens g, Mute t.2.toList := by
  have hdigits : Mute (String.ofList (Nat.toDigits 10 g.defaults.timeoutSecs)).toList := by
    rw [String.toList_ofList]
    refine mute_of_isIdentifierPart fun c hc => ?_
    have hdigit := Nat.isDigit_of_mem_toDigits (by decide) (by decide) hc
    simp [isIdentifierPart, Char.isAlphanum, hdigit]
  simp only [groupTokens, List.forall_mem_cons]
  exact ⟨mute_goString _, mute_goString _, hdigits, mute_goString _, mute_goString _,
    mute_of_isIdentifierPart hg, List.forall_mem_nil _⟩

theorem not_qualifies_groupText {g : ServiceGroup} (hg : ∀ c ∈ g.name.toList, isIdentifierPart c)
    {name : String} (h : name ∈ callImports) : ¬Qualifies name (groupText g) := by
  have hname := toList_mem_callNames h
  rw [groupText_eq_lines]
  intro hq
  obtain ⟨l', hl', hq⟩ := exists_line_of_qualifies (newline_notMem_of_mem_callNames hname) hq
  obtain ⟨l, hl, rfl⟩ := List.mem_map.1 hl'
  have hsilent := List.all_eq_true.1 (quiet_groupLines l hl) _ hname
  rw [← keys_groupTokens g] at hsilent
  exact not_qualifies_fill (mute_groupTokens hg) (isIdentifierPart_of_mem_callNames hname) hsilent
    hq

/-! ## Lists of subcommands -/

theorem not_qualifies_versionAssertion {name : String} (h : name ∈ callImports) :
    ¬Qualifies name versionAssertion := by
  have hname := toList_mem_callNames h
  have hlines : ∀ l ∈ [
      "",
      "// This is a compile-time assertion to ensure that this generated file",
      "// is compatible with the grpc package it is being compiled against.",
      "const _ = grpc.SupportPackageIsVersion4"], quietLine l.toList := by
    repeat' first | exact List.forall_mem_nil _ | refine forall_ofList (by decide +kernel) ?_
  intro hq
  obtain ⟨l, hl, hq⟩ := exists_line_of_qualifies (newline_notMem_of_mem_callNames hname) hq
  have hfalse := List.all_eq_true.1 (hlines l hl) _ hname
  have htrue : qualifiesFrom name.toList [] l.toList := qualifiesFrom_iff.2 hq
  simp [htrue] at hfalse

/-- A list of subcommands names no package but that of their type. -/
theorem not_qualifies_subcommandListText {service name : String}
    (hs : ∀ c ∈ service.toList, isIdentifierPart c) (h : name ∈ callImports) :
    ¬Qualifies name (subcommandListText service []) := by
  have hname := toList_mem_callNames h
  have hparts : callNames.all fun name => silent name .code []
      ("var _".toList.map .char ++ .key ['$'] ::
        "ClientSubCommands = []func() *cobra.Command\x7b".toList.map .char) := by
    decide +kernel
  have hmute : ∀ t ∈ [(['$'], service.toList)], Mute t.2 :=
    List.forall_mem_singleton.2 (mute_of_isIdentifierPart hs)
  intro hq
  obtain ⟨l, hl, hq⟩ := exists_line_of_qualifies (newline_notMem_of_mem_callNames hname) hq
  rcases List.mem_cons.1 hl with rfl | hl
  · refine not_qualifies_of_silent hmute (isIdentifierPart_of_mem_callNames hname)
      (List.all_eq_true.1 hparts _ hname) ?_ hq
    rw [List.flatMap_append, List.flatMap_cons, flatMap_text_map_char, flatMap_text_map_char]
    simp [Part.text]
  · obtain rfl := List.mem_singleton.1 hl
    obtain ⟨before, after, htext, -⟩ := hq
    have hdot : '.' ∈ "\x7d".toList := by simp [htext]
    exact absurd hdot (by decide)

/-! ## Subcommands -/

section Subcommand

variable {c : Subcommand} {name l : String}

theorem qualifies_subcommandText_of_step {step : Step} (hstep : step ∈ c.steps)
    (hl : l ∈ stepLines c.method step) (h : Qualifies name l) :
    Qualifies name (subcommandText c) := by
  have hsteps : Qualifies name (lines (c.steps.flatMap (stepLines c.method))) :=
    qualifies_lines (List.mem_flatMap_of_mem hstep hl) h
  exact ((((hsteps.prepend (endsLine_lines (List.cons_ne_nil _ _))).append _).append _).append
    _).append _

theorem qualifies_log : Qualifies "log" (subcommandText c) := by
  have hfatal : Qualifies "log" "\t\t\t\tlog.Fatal(err)" := qualifies_ofList (by decide)
  unfold subcommandText
  rw [← lines_append, ← lines_append]
  exact (((qualifies_lines (by simp) hfatal).append _).append _).append _

/-- What qualifies the type of the request is named where a variable of that type is declared. -/
theorem qualifies_inputType {typeName : String} (h : c.inputType = name ++ "." ++ typeName) :
    Qualifies name (subcommandText c) := by
  have hdeclared : Qualifies name ("\t\t\tvar v " ++ c.inputType) := by
    rw [h, ← String.append_assoc, ← String.append_assoc]
    exact qualifies_append (by decide) (by decide) typeName
  unfold subcommandText
  exact (((((qualifies_lines (by simp) hdeclared).append _).append _).append _).append _).append _

variable {mode : StreamingMode} (hsteps : c.steps = mode.dispatch)

include hsteps

theorem qualifies_proto : Qualifies "proto" (subcommandText c) := by
  have hmerge : Qualifies "proto" "\t\t\t\tproto.Merge(&v, reqArgs)" :=
    qualifies_ofList (by decide)
  have hsend : Qualifies "proto" "\t\t\t\t\tproto.Merge(&v, reqArgs)" :=
    qualifies_ofList (by decide)
  have hmode : Step.mergeFlags ∈ c.steps ∨ Step.sendUntilEof ∈ c.steps := by
    rw [hsteps]
    cases mode <;> decide
  rcases hmode with hstep | hstep
  · exact qualifies_subcommandText_of_step hstep (by simp [stepLines]) hmerge
  · exact qualifies_subcommandText_of_step hstep (by simp [stepLines, sendLoop]) hsend

/-- Every mode has a step that calls the method. -/
theorem qualifies_context (hmethod : ∀ x ∈ c.method.toList, isIdentifierPart x) :
    Qualifies "context" (subcommandText c) := by
  have hcall (rest : String) {lead args : String} (hlead : Spot.code.after lead.toList = .code)
      (hargs : args = "(" ++ "context" ++ "." ++ rest) :
      Qualifies "context" (lead ++ c.method ++ args) := by
    rw [hargs, ← String.append_assoc, ← String.append_assoc, ← String.append_assoc]
    exact qualifies_behind_name hlead hmethod (by simp) (by decide) (by decide) rest
  have hmode : Step.callUnary ∈ c.steps ∨ Step.openServerStream ∈ c.steps ∨
      Step.openClientStream ∈ c.steps := by
    rw [hsteps]
    cases mode <;> decide
  rcases hmode with hstep | hstep | hstep
  · exact qualifies_subcommandText_of_step hstep List.mem_cons_self
      (hcall "Background(), &v)" (by decide) (by decide))
  · exact qualifies_subcommandText_of_step hstep List.mem_cons_self
      (hcall "Background(), &v)" (by decide) (by decide))
  · exact qualifies_subcommandText_of_step hstep List.mem_cons_self
      (hcall "Background())" (by decide) (by decide))

theorem qualifies_streamImport (hmode : mode.isStreaming) :
    Qualifies "io" (subcommandText c) := by
  have hend : Qualifies "io" "\t\t\t\t\tif err == io.EOF \x7b" := qualifies_ofList (by decide)
  have hloop : Step.recvUntilEof ∈ c.steps ∨ Step.sendUntilEof ∈ c.steps := by
    rw [hsteps]
    cases mode with
    | unary => cases hmode
    | serverStreaming | clientStreaming | bidirectional => decide
  rcases hloop with hstep | hstep
  · exact qualifies_subcommandText_of_step hstep (by simp [stepLines, receiveLoop]) hend
  · exact qualifies_subcommandText_of_step hstep (by simp [stepLines, sendLoop]) hend

end Subcommand

end ServiceCli.GoText
