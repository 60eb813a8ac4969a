import ServiceCli.Proofs.GoFile.Subcommands
import ServiceCli.Proofs.Name.References
import ServiceCli.Proofs.Request.Skeletons
import ServiceCli.Proofs.Tree.Declared

/-!
# The Go types of requests

The request of a method in the package of the file has a type without a qualifier
(`exists_typeName_of_relativePath`), and one in another package the type that its reference is cut
into (`foreignRequest_cases`). So a request has the type that its reference means, with the other
package in front, only if the file tells this package from the rest of the reference, and
`qualified_iff_separable` says that this is all it takes. Nested types are left out, and so are
types in a package below that of the file.
-/

namespace ServiceCli

open Command Proto Request Text ServiceCli.Tree

/-! ## Requests in the package of the file -/

section Own

variable {f : File} {imports : ImportMap} {o : Options} {m : Method}

/-- A request that is declared here has the skeleton and the flags of the message that its reference
finds. -/
theorem exists_yields_declaredRequest (d : Declarations) (help ref : String) :
    ∃ keys, Yields d (declaredRequest d help ref)
      ((d.reference ref).map fun s => (skeletonOf d (maxDepth + 1) s.goName [s.position] s,
        flagsOf d help (maxDepth + 1) ⟨"reqArgs", "", [s.position]⟩ s))
      keys := by
  cases hs : d.reference ref with
  | none =>
    have href := yields_resolveReference (d := d) ref
    rw [hs] at href
    exact ⟨_, href.bind (yields_pure none)⟩
  | some s =>
    have href := yields_resolveReference (d := d) ref
    rw [hs] at href
    exact ⟨_, href.bind ((yields_flags d "reqArgs" "" s help).bind
      ((yields_skeleton d s s.typePrefix 0).bind (yields_pure _)))⟩

/-- A request in the package of the file is planned after the declaration that its reference finds.
If it finds none, no more than the names in it are known. -/
theorem requestOf_of_relativePath {path : List String}
    (h : relativePath f.package m.inputType = some path) :
    requestOf f imports o m =
      (f.declarations.reference m.inputType).elim
        (.ofTypeName (String.intercalate "_" path) none)
        fun s => ⟨skeletonOf f.declarations (maxDepth + 1) s.goName [s.position] s,
          flagsOf f.declarations o.helpText (maxDepth + 1) ⟨"reqArgs", "", [s.position]⟩ s, none⟩ := by
  obtain ⟨keys, hyields⟩ := exists_yields_declaredRequest f.declarations o.helpText m.inputType
  rw [requestOf, h]
  dsimp only
  rw [hyields.fst_run (LookupLog.faithful_empty _)]
  cases f.declarations.reference m.inputType <;> rfl

/-- A reference into the package of the file gives the name of the declaration that it finds, or
else the names in it. -/
theorem init_of_relativePath {path : List String}
    (h : relativePath f.package m.inputType = some path) :
    ∃ fields, (requestOf f imports o m).init =
      .construct (((f.declarations.reference m.inputType).map Site.goName).getD
        (String.intercalate "_" path)) fields := by
  rw [requestOf_of_relativePath h]
  cases f.declarations.reference m.inputType with
  | none => exact ⟨[], rfl⟩
  | some s => exact ⟨_, rfl⟩

/-- The type of a request in the package of the file has no qualifier. -/
theorem exists_typeName_of_relativePath {path : List String} {rest : String}
    (h : relativePath f.package m.inputType = some path) (hm : m.inputType = "." ++ rest) :
    ∃ typeName fields, (requestOf f imports o m).init = .construct typeName fields ∧
      '.' ∉ typeName.toList := by
  obtain ⟨fields, hinit⟩ := init_of_relativePath h
  refine ⟨_, fields, hinit, ?_⟩
  have hsep : '.' ∉ "_".toList := by decide
  cases hs : f.declarations.reference m.inputType with
  | none =>
    obtain ⟨part, -, hpart⟩ := Option.bind_eq_some_iff.1 h
    obtain ⟨-, hpath⟩ := Option.ite_none_left_eq_some.1 hpart
    obtain rfl := Option.some.inj hpath
    exact notMem_intercalate hsep fun name hname => notMem_of_mem_pieces hname
  | some s =>
    obtain ⟨key, hkey, hfound⟩ := Option.bind_eq_some_iff.1 hs
    have hexact : isExact key := Declarations.isExact_of_key? (hm ▸ isExact_append rest) hkey
    have hname : s.goName = String.intercalate "_" (keyNames key) := goName_of_resolve hexact hfound
    rw [Option.map_some, Option.getD_some, hname]
    exact notMem_intercalate hsep fun name hn => notMem_of_mem_pieces (List.mem_filter.1 hn).1

end Own

/-! ## Requests in other packages -/

section Foreign

variable {package : String} {names : List String}

/-- A request in another package has the type that its reference is cut into, with a qualifier if
the path of the package is known. -/
theorem foreignRequest_cases (imports : ImportMap) (ref : String) :
    (∃ path, (QualifiedName.ofReference ref).package ≠ "" ∧
        imports.get? (QualifiedName.ofReference ref).package = some path ∧
        foreignRequest imports ref = .ofTypeName
          (QualifiedName.aliasOf (QualifiedName.ofReference ref).package ++ "."
            ++ (QualifiedName.ofReference ref).typeName)
          (some ⟨QualifiedName.aliasOf (QualifiedName.ofReference ref).package, path⟩)) ∨
      foreignRequest imports ref = .ofTypeName (QualifiedName.ofReference ref).typeName none := by
  unfold foreignRequest
  dsimp only
  split
  · next name path halias hpath =>
    obtain ⟨hne, hname⟩ := Option.ite_none_left_eq_some.1 halias
    obtain rfl := Option.some.inj hname
    exact Or.inl ⟨path, hne, hpath, rfl⟩
  · exact Or.inr rfl

/-- The type of a request in another package is qualified with the name of its import, if it has
one. -/
theorem init_of_foreign {f : File} {imports : ImportMap} {o : Options} {m : Method}
    (h : relativePath f.package m.inputType = none) :
    (requestOf f imports o m).init = .construct
      (((requestOf f imports o m).imported.elim "" fun i => i.name ++ ".")
        ++ (QualifiedName.ofReference m.inputType).typeName) [] := by
  rw [requestOf, h]
  dsimp only
  rcases foreignRequest_cases imports m.inputType with ⟨path, -, -, hplan⟩ | hplan
  · rw [hplan]
    rfl
  · rw [hplan]
    simp [RequestPlan.ofTypeName, Skeleton.bare]

/-- Where the request has the type that the reference means, the package is told from the type as
it should be. The lengths alone show that no dot was lost. -/
theorem separated_of_init {imports : ImportMap} (hp : package ≠ "")
    {fields : List (String × Skeleton)}
    (h : (foreignRequest imports (typeReference package names)).init = .construct
      (QualifiedName.aliasOf package ++ "." ++ String.intercalate "_" names) fields) :
    (∀ rest, package ≠ "." ++ rest) ∧ '.' ∉ (String.intercalate "." names).toList := by
  have hjoin : (String.intercalate "_" names).length = (String.intercalate "." names).length :=
    length_intercalate (show "_".length = ".".length from rfl) names
  have hsuffix : (typeReference package names).toList.dropWhile (· == '.')
      <:+ package.toList ++ '.' :: (String.intercalate "." names).toList := by
    simpa [typeReference] using List.dropWhile_suffix (l :=
      package.toList ++ '.' :: (String.intercalate "." names).toList) (· == '.')
  rcases foreignRequest_cases imports (typeReference package names) with
    ⟨path, hne, -, hplan⟩ | hplan
  · rw [hplan] at h
    obtain ⟨halias, hname⟩ := qualifier_injective (Skeleton.construct.inj h).1
    rcases ofReference_spec (typeReference package names) with ⟨hbare, hdot⟩ | ⟨hempty, -⟩
    · have hlen := congrArg String.length halias
      rw [length_aliasOf, length_aliasOf] at hlen
      rw [hname] at hbare hdot
      have hpackage : package.toList.length
          = (QualifiedName.ofReference (typeReference package names)).package.toList.length := by
        rw [String.length_toList, String.length_toList]
        omega
      have hall := hsuffix.eq_of_length (by
        rw [hbare]
        simp only [List.length_append, List.length_cons, String.length_toList] at hpackage ⊢
        omega)
      obtain ⟨-, hcut⟩ := List.append_inj (hall.symm.trans hbare) hpackage
      rw [(List.cons.inj hcut).2]
      exact ⟨(dropWhile_typeReference hp).1 hall, hdot⟩
    · exact absurd hempty hne
  · rw [hplan] at h
    have htype := congrArg String.length (Skeleton.construct.inj h).1
    rw [String.length_append, String.length_append, length_aliasOf] at htype
    have hle := hsuffix.length_le
    exfalso
    rcases ofReference_spec (typeReference package names) with ⟨hbare, -⟩ | ⟨-, hbare⟩
    · rw [hbare] at hle
      simp only [List.length_append, List.length_cons, String.length_toList] at hle
      omega
    · rw [← hbare] at hle
      simp only [List.length_append, List.length_cons, String.length_toList] at hle
      omega

/-- A separable reference gives the type that it means, and the import for it. -/
theorem requestOf_of_separable {f : File} {imports : ImportMap} {o : Options} {m : Method}
    {path : String} (hm : m.inputType = typeReference package names) (hp : package ≠ "")
    (hother : package ≠ f.package) (hpath : imports.get? package = some path)
    (h : Separable f.package package names) :
    requestOf f imports o m = .ofTypeName
      (QualifiedName.aliasOf package ++ "." ++ String.intercalate "_" names)
      (some ⟨QualifiedName.aliasOf package, path⟩) := by
  have hnone := h.relativePath_eq_none hother
  obtain ⟨name, rfl, hname⟩ := h.single
  have hcut := ofReference_typeReference hp h.not_lead hname
  have halias : QualifiedName.importAlias ⟨package, name⟩ = some (QualifiedName.aliasOf package) :=
    if_neg hp
  rw [requestOf, hm, hnone]
  dsimp only
  rw [foreignRequest, hcut]
  dsimp only
  rw [halias, hpath]
  rfl

/-- A reference that gives the type that it means is separable. -/
theorem separable_of_init {f : File} {imports : ImportMap} {o : Options} {m : Method}
    (hm : m.inputType = typeReference package names) (hp : package ≠ "") (hnames : names ≠ [])
    {fields : List (String × Skeleton)}
    (h : (requestOf f imports o m).init = .construct
      (QualifiedName.aliasOf package ++ "." ++ String.intercalate "_" names) fields) :
    Separable f.package package names := by
  cases hrel : relativePath f.package m.inputType with
  | some path =>
    obtain ⟨typeName, fields', hinit, hdot⟩ :
        ∃ typeName fields', (requestOf f imports o m).init = .construct typeName fields' ∧
          '.' ∉ typeName.toList := exists_typeName_of_relativePath hrel hm
    rw [hinit] at h
    rw [(Skeleton.construct.inj h).1] at hdot
    simp at hdot
  | none =>
    rw [requestOf, hrel, hm] at h
    rw [hm] at hrel
    obtain ⟨hown, hbelow⟩ := of_relativePath_eq_none hrel
    obtain ⟨hlead, hdot⟩ := separated_of_init hp h
    exact ⟨hown, hbelow, hlead,
      exists_eq_singleton_of_notMem_intercalate (by decide) hnames hdot⟩

end Foreign

/-- The request of a method in a file that is built has the type that its reference means, with the
other package in front, and the file imports this one, exactly if the reference is separable. -/
theorem qualified_iff_separable {f : File} {imports : ImportMap} {o : Options} {go : GoFile}
    (h : buildFile f imports o = .ok (some go)) {k : Nat} {call : Service × Method}
    (hk : f.calls[k]? = some call) {package path : String} {names : List String}
    (hinput : call.2.inputType = typeReference package names) (hp : package ≠ "")
    (hother : package ≠ f.package) (hpath : imports.get? package = some path)
    (hnames : names ≠ []) :
    ∃ c, go.subcommands[k]? = some c ∧
      (c.inputType = QualifiedName.aliasOf package ++ "." ++ String.intercalate "_" names ∧
          (⟨QualifiedName.aliasOf package, path⟩ : GoImport).withOptions o ∈ go.imports ↔
        Separable f.package package names) := by
  obtain ⟨c, hc, hassemble⟩ := exists_subcommand h hk
  obtain ⟨fields, hinit⟩ := exists_init_of_assemble hassemble
  refine ⟨c, hc, ?_, ?_⟩
  · rintro ⟨htype, -⟩
    rw [htype] at hinit
    exact separable_of_init hinput hp hnames hinit
  · intro hs
    have hrequest := requestOf_of_separable (o := o) hinput hp hother hpath hs
    rw [hrequest] at hinit
    refine ⟨(Skeleton.construct.inj hinit).1.symm, (mem_imports_iff h).2 ⟨_, Or.inr (Or.inr ?_), rfl⟩⟩
    refine ⟨call, List.mem_of_getElem? hk, ?_⟩
    rw [hrequest]
    rfl

/-- A file that declares a message with another one nested in it. -/
def pages : File where
  name := "pages.proto"
  package := "common"
  goPackage := "example.com/common"
  messages := [{ name := "Page", nested := [{ name := "Token" }] }]

/-- A file with a method for either message of the other one. -/
def pager : File where
  name := "pager.proto"
  package := "pb"
  services :=
    [{ name := "Pager"
       methods :=
        [{ name := "Show", inputType := ".common.Page", outputType := ".common.Page" },
          { name := "Seek", inputType := ".common.Page.Token", outputType := ".common.Page" }] }]

/-- The request of the first method is imported. That of the second one is not, since its type is
nested. -/
theorem pager_requests :
    ∃ go, buildFile pager (.ofFiles [pages, pager] {}) {} = .ok (some go) ∧
      (∃ c, go.subcommands[0]? = some c ∧ c.inputType = "common_pb.Page" ∧
        ⟨"common_pb", "example.com/common"⟩ ∈ go.imports) ∧
      ∃ c, go.subcommands[1]? = some c ∧ ¬(c.inputType = "common_pb.Page_Token" ∧
        ⟨"common_pb", "example.com/common"⟩ ∈ go.imports) := by
  obtain ⟨go, hgo⟩ : ∃ go, buildFile pager (.ofFiles [pages, pager] {}) {} = .ok (some go) :=
    ⟨_, rfl⟩
  have hpath : (ImportMap.ofFiles [pages, pager] {}).get? "common" = some "example.com/common" := by
    decide
  have hpage : QualifiedName.aliasOf "common" ++ "." ++ String.intercalate "_" ["Page"]
      = "common_pb.Page" := by decide
  have htoken : QualifiedName.aliasOf "common" ++ "." ++ String.intercalate "_" ["Page", "Token"]
      = "common_pb.Page_Token" := by decide
  have himport : (⟨QualifiedName.aliasOf "common", "example.com/common"⟩ : GoImport).withOptions {}
      = ⟨"common_pb", "example.com/common"⟩ := by decide
  have hseparable : Separable "pb" "common" ["Page"] :=
    ⟨by decide, fun rest h => by simpa using congrArg String.toList h,
      fun rest h => by simpa using congrArg String.toList h, "Page", rfl, by decide⟩
  have hshow : ".common.Page" = typeReference "common" ["Page"] := by decide
  have hseek : ".common.Page.Token" = typeReference "common" ["Page", "Token"] := by decide
  obtain ⟨c, hc, hiff⟩ := qualified_iff_separable hgo (k := 0) rfl hshow (by decide) (by decide) hpath
    (by decide)
  obtain ⟨c', hc', hiff'⟩ := qualified_iff_separable hgo (k := 1) rfl hseek (by decide) (by decide) hpath
    (by decide)
  rw [hpage, himport] at hiff
  rw [htoken, himport] at hiff'
  refine ⟨go, hgo, ⟨c, hc, hiff.2 hseparable⟩, c', hc', fun hqualified => ?_⟩
  obtain ⟨name, hname, -⟩ := (hiff'.1 hqualified).single
  cases hname

end ServiceCli
