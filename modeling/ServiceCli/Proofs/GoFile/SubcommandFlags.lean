import ServiceCli.Proofs.GoFile.Faults
import ServiceCli.Proofs.Request.FlagNames

/-!
# The flag names of a subcommand

A command panics when a flag of one name is defined twice. The subcommands of a service are refused
if two of them are called by one name, but the flags of a subcommand are not compared, so they have
different names only as far as the fields of its request do. `nodup_flagNames_iff` says how far this
is: two flags have one name exactly if two bind paths of the request clash. Fields of one message
with different Go names do not rule this out, as those of `counters` show, whose names differ in
case alone.
-/

namespace ServiceCli

open Command Proto Request ServiceCli.Tree

/-- The names of the flags of a subcommand, in order. -/
def Command.Subcommand.flagNames (c : Subcommand) : List String :=
  c.flags.filterMap Flag.flagName?

section Own

variable {f : File} {imports : ImportMap} {o : Options} {m : Method}

theorem reference_eq_none_of_relativePath (h : relativePath f.package m.inputType = none) :
    f.declarations.reference m.inputType = none := by
  rw [Declarations.reference, Option.bind_eq_none_iff]
  intro key hkey
  obtain ⟨rest, hrest, hkey⟩ := Option.bind_eq_some_iff.1 hkey
  have hrel := Option.bind_eq_none_iff.1 h rest hrest
  split at hkey
  · cases hkey
  · next hne =>
    rw [if_neg hne] at hrel
    cases hrel

theorem flags_foreignRequest (imports : ImportMap) (ref : String) :
    (foreignRequest imports ref).flags = [] := by
  rcases foreignRequest_cases imports ref with ⟨path, -, -, hplan⟩ | hplan <;> rw [hplan] <;> rfl

/-- A request has the flags of the message that its reference finds in the file, and none if it
finds none. -/
theorem flags_requestOf : (requestOf f imports o m).flags =
    (f.declarations.reference m.inputType).elim [] fun s =>
      flagsOf f.declarations o.helpText (maxDepth + 1) ⟨"reqArgs", "", [s.position]⟩ s := by
  cases hrel : relativePath f.package m.inputType with
  | none =>
    rw [requestOf, hrel, reference_eq_none_of_relativePath hrel]
    exact flags_foreignRequest imports m.inputType
  | some path =>
    rw [requestOf_of_relativePath hrel]
    cases f.declarations.reference m.inputType <;> rfl

end Own

/-- The flags of each subcommand of a built file have different names exactly if no two bind paths
of its request clash. Where no message has two fields of one Go name and no Go name has a hyphen,
this is so exactly if there are no such paths whose names, field by field, differ in case alone.
There are none where the names of the fields of a message differ in more than case. -/
theorem nodup_flagNames_iff {f : File} {imports : ImportMap} {o : Options} {go : GoFile}
    (h : buildFile f imports o = .ok (some go)) :
    List.Forall₂ (fun call c =>
        (c.flagNames.Nodup ↔
          ∀ s, f.declarations.reference call.2.inputType = some s → ¬Clash f.declarations s) ∧
        (DistinctFields f.declarations → HyphenFree f.declarations →
          (c.flagNames.Nodup ↔
            ∀ s, f.declarations.reference call.2.inputType = some s →
              ¬CaseClash f.declarations s)) ∧
        (CaseDistinctFields f.declarations → HyphenFree f.declarations → c.flagNames.Nodup))
      f.calls go.subcommands := by
  refine (forall₂_subcommands h).imp fun call c hc => ?_
  have hclash : c.flagNames.Nodup ↔
      ∀ s, f.declarations.reference call.2.inputType = some s → ¬Clash f.declarations s := by
    rw [Subcommand.flagNames, (madeFor_of_assemble hc).flags, flags_requestOf]
    cases f.declarations.reference call.2.inputType with
    | none => simp
    | some s => simpa using nodup_flagNames_flagsOf_iff o.helpText "reqArgs" ""
  have hcase (hfields : DistinctFields f.declarations) (hyphen : HyphenFree f.declarations) :
      c.flagNames.Nodup ↔ ∀ s, f.declarations.reference call.2.inputType = some s →
        ¬CaseClash f.declarations s := by
    rw [hclash]
    refine forall_congr' fun s => imp_congr_right fun hs => not_congr ?_
    exact clash_iff_caseClash (f.declarations.mem_sites_of_reference hs) hfields hyphen
  refine ⟨hclash, hcase, fun hfields hyphen => ?_⟩
  rw [hcase hfields.distinctFields hyphen]
  exact fun s hs => not_caseClash (f.declarations.mem_sites_of_reference hs) hfields

/-- A file with a request whose two fields have different names in Go, but not in small letters. -/
def counters : File where
  name := "counters.proto"
  package := "counters"
  messages :=
    [{ name := "Range"
       fields := [{ name := "ab", wireType := .int64 }, { name := "aB", wireType := .int64 }] }]
  services :=
    [{ name := "Counters"
       methods :=
        [{ name := "Count", inputType := ".counters.Range", outputType := ".counters.Range" }] }]

/-- The file is built, and both flags of its subcommand have one name. -/
theorem flagNames_counters : ∃ go, buildFile counters {} {} = .ok (some go) ∧
    DistinctFields counters.declarations ∧ HyphenFree counters.declarations ∧
    ∃ c ∈ go.subcommands, ¬c.flagNames.Nodup := by
  obtain ⟨go, h⟩ := (exists_goFile_iff counters {} {}).2
    ⟨by decide, by rw [← File.faults_eq_nil_iff]; decide⟩
  have hfields : DistinctFields counters.declarations := by
    unfold DistinctFields
    decide
  have hyphen : HyphenFree counters.declarations := by
    unfold HyphenFree
    decide
  have hall := nodup_flagNames_iff h
  have hcalls : counters.calls = [(counters.services[0], counters.services[0].methods[0])] := rfl
  rw [hcalls, List.forall₂_cons_left_iff] at hall
  obtain ⟨c, rest, ⟨-, hcase, -⟩, -, hgo⟩ := hall
  refine ⟨go, h, hfields, hyphen, c, by rw [hgo]; exact List.mem_cons_self, ?_⟩
  rw [hcase hfields hyphen]
  intro hnone
  -- Either field alone is a path, and they part at once.
  have hleft : BindPath counters.declarations ⟨[0], [], counters.messages[0]⟩
      ([] ++ [(counters.messages[0].fields[0], 0)]) :=
    ⟨[], .last rfl rfl, by decide, by decide, by decide⟩
  have hright : BindPath counters.declarations ⟨[0], [], counters.messages[0]⟩
      ([] ++ [(counters.messages[0].fields[1], 1)]) :=
    ⟨[], .last rfl rfl, by decide, by decide, by decide⟩
  exact hnone _ (by decide) ⟨_, _, _, _, _, ⟨hleft, hright, by decide⟩, by decide, by decide⟩

end ServiceCli
