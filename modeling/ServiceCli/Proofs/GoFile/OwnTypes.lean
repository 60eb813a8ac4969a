import ServiceCli.Proofs.GoFile.SubcommandFlags
import ServiceCli.Proofs.GoFile.Units
import ServiceCli.Proofs.GoText.References
import ServiceCli.Proofs.Tree.FullNames

/-!
# Request types of the package of the file

The type of a request in the package of the file is named in one of two ways: after the declaration
that its reference finds, or, if it finds none, after the names in the reference. A reference that is
written in full finds no declaration but one of these very names (`names_of_reference`), so both
ways come to the same type. `ownType_of_reference` follows it to the text of the subcommand, where
the request is allocated and the variable declared into which requests are read.
-/

namespace ServiceCli

open Command GoText Proto Request Text ServiceCli.Tree

/-! ## References that are written in full -/

section Names

variable {d : Declarations} {names : List String}

/-- Names of messages, outermost first: there is one at least, and each can be told from the dots
between them. -/
structure ProperNames (names : List String) : Prop where
  ne_nil : names ≠ []
  proper : ∀ name ∈ names, name ≠ "" ∧ '.' ∉ name.toList

/-- Below the package, a reference that is written in full has the path of its names. -/
theorem relativePath_lead (h : ProperNames names) :
    relativePath d.package (d.lead ++ String.intercalate "." names) = some names := by
  have hpart : relativePart d.package (d.lead ++ String.intercalate "." names)
      = some (String.intercalate "." names) :=
    (Declarations.relativePart_eq_some_iff (Declarations.isExact_lead _)).2 rfl
  have hpieces : pieces '.' (String.intercalate "." names) = names :=
    pieces_intercalate rfl h.ne_nil fun name hname => (h.proper name hname).2
  have hne : String.intercalate "." names ≠ "" := by
    intro hempty
    have hnames : names = [""] := by
      rw [← hpieces, hempty]
      rfl
    exact (h.proper "" (by simp [hnames])).1 rfl
  rw [relativePath, hpart, Option.bind_some, if_neg hne, hpieces]

/-- What a reference that is written in full finds is declared under its names. -/
theorem names_of_reference (h : ProperNames names) {s : Site}
    (hs : d.reference (d.lead ++ String.intercalate "." names) = some s) :
    s ∈ sites d.roots ∧ s.names = names := by
  obtain ⟨rest, hrest, hw⟩ :=
    (Declarations.reference_eq_some_iff (Declarations.isExact_lead _)).1 hs
  obtain rfl : String.intercalate "." names = rest := String.append_right_inj _ |>.1 hrest
  rw [keyNames_intercalate h.ne_nil h.proper] at hw
  exact ⟨mem_sitesFrom_of_walk hw, names_of_walk hw⟩

end Names

/-! ## Built files -/

/-- Where a file is built, the request of a method whose reference is written in full in the package
of the file has the type of the names in it, in the subcommand of the method and in its text, whether
the file declares it or not. Only a request that the reference finds has flags or fields, and it is
declared under these names. -/
theorem ownType_of_reference {f : File} {imports : ImportMap} {o : Options} {go : GoFile}
    (h : buildFile f imports o = .ok (some go)) {k : Nat} {call : Service × Method}
    (hk : f.calls[k]? = some call) {names : List String} (hnames : ProperNames names)
    (hinput : call.2.inputType = f.declarations.lead ++ String.intercalate "." names) :
    ∃ c fields, go.subcommands[k]? = some c ∧
      c.inputType = String.intercalate "_" names ∧
      c.init = .construct (String.intercalate "_" names) fields ∧
      (∃ before after, EndsLine before ∧
        subcommandText c = constructorLine c.constructor ++ "\n"
          ++ allocationStart (String.intercalate "_" names) ++ before
          ++ variableLine (String.intercalate "_" names) ++ "\n" ++ callLine c.service ++ "\n"
          ++ after) ∧
      (∃ before after, fileText go = before ++ subcommandText c ++ after) ∧
      (f.declarations.reference call.2.inputType = none → c.flags = [] ∧ fields = []) ∧
      ∀ s, f.declarations.reference call.2.inputType = some s →
        s ∈ sites f.messages ∧ s.names = names := by
  obtain ⟨c, hc, hassemble⟩ := exists_subcommand h hk
  have hpath : relativePath f.package call.2.inputType = some names :=
    hinput ▸ relativePath_lead (d := f.declarations) hnames
  have hfound (s : Site) (hs : f.declarations.reference call.2.inputType = some s) :
      s ∈ sites f.messages ∧ s.names = names :=
    names_of_reference hnames (hinput ▸ hs)
  have hname : ((f.declarations.reference call.2.inputType).map Site.goName).getD
      (String.intercalate "_" names) = String.intercalate "_" names := by
    cases hs : f.declarations.reference call.2.inputType with
    | none => rfl
    | some s =>
      rw [Option.map_some, Option.getD_some, goName_eq, ← (hfound s hs).2]
      rfl
  obtain ⟨fields, hinit⟩ : ∃ fields, (requestOf f imports o call.2).init = .construct _ fields :=
    init_of_relativePath hpath
  rw [hname] at hinit
  have hcinit : c.init = .construct (String.intercalate "_" names) fields :=
    (init_of_assemble hassemble).trans hinit
  have htype : c.inputType = String.intercalate "_" names := by
    obtain ⟨fields', hfields'⟩ := exists_init_of_assemble hassemble
    exact (Skeleton.construct.inj (hfields'.symm.trans hinit)).1
  have htext := exists_subcommandText_eq c hcinit
  rw [htype] at htext
  obtain ⟨before, after, hfile⟩ := exists_fileText_eq (subcommand_mem_units (List.mem_of_getElem? hc))
  rw [unitText] at hfile
  refine ⟨c, fields, hc, htype, hcinit, htext, ⟨before, after, hfile⟩, fun hnone => ⟨?_, ?_⟩,
    hfound⟩
  · rw [(madeFor_of_assemble hassemble).flags, flags_requestOf, hnone]
    rfl
  · rw [requestOf_of_relativePath hpath, hnone] at hinit
    have hbare : Skeleton.construct (String.intercalate "_" names) []
        = .construct (String.intercalate "_" names) fields := hinit
    exact (Skeleton.construct.inj hbare).2.symm

/-- A file with a method for a nested message that it declares and one for a message that it does
not declare. -/
def shelves : File where
  name := "shelves.proto"
  package := "library"
  messages :=
    [{ name := "Book"
       nested := [{ name := "Page", fields := [{ name := "number", wireType := .int64 }] }] }]
  services :=
    [{ name := "Shelf"
       methods :=
        [{ name := "Turn", inputType := ".library.Book.Page", outputType := ".library.Book" },
          { name := "Bind", inputType := ".library.Book.Cover", outputType := ".library.Book" }] }]

/-- The types of both requests are named alike, though only the first one is declared. -/
theorem ownType_shelves : ∃ go, buildFile shelves {} {} = .ok (some go) ∧
    (∃ c, go.subcommands[0]? = some c ∧ c.inputType = "Book_Page" ∧
      (shelves.declarations.reference ".library.Book.Page").isSome) ∧
    ∃ c, go.subcommands[1]? = some c ∧ c.inputType = "Book_Cover" ∧ c.flags = [] := by
  obtain ⟨go, hgo⟩ := (exists_goFile_iff shelves {} {}).2
    ⟨by decide, by rw [← File.faults_eq_nil_iff]; decide⟩
  have hpage : ProperNames ["Book", "Page"] := ⟨by decide, by decide⟩
  have hcover : ProperNames ["Book", "Cover"] := ⟨by decide, by decide⟩
  have hturn : ".library.Book.Page"
      = shelves.declarations.lead ++ String.intercalate "." ["Book", "Page"] := by decide
  have hbind : ".library.Book.Cover"
      = shelves.declarations.lead ++ String.intercalate "." ["Book", "Cover"] := by decide
  have hnotFound : shelves.declarations.reference ".library.Book.Cover" = none := by decide
  obtain ⟨c, -, hc, htype, -⟩ := ownType_of_reference hgo (k := 0) rfl hpage hturn
  obtain ⟨c', fields', hc', htype', -, -, -, hnone, -⟩ :=
    ownType_of_reference hgo (k := 1) rfl hcover hbind
  exact ⟨go, hgo, ⟨c, hc, htype.trans (by decide), by decide⟩, c', hc', htype'.trans (by decide),
    (hnone hnotFound).1⟩

end ServiceCli
