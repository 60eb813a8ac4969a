import ServiceCli.Command.GenerationError
import ServiceCli.Command.Unit
import ServiceCli.Name.Camel
import ServiceCli.Text.LetterCase

/-!
# Assembling commands

`assemble` makes the subcommand of one method from its skeleton and flags; `assembleService`
puts the subcommands of a service behind its group command and in front of the list that
registers them. Both refuse names that Go cannot use, and a service with two commands of one
name is refused at the first repetition (`repeated?`).
-/

namespace ServiceCli.Command

open Proto Request Text

/-- The Go name for the name of a service or a method. -/
def goName (what : Named) (parent name : String) : Except GenerationError String :=
  if name = "" then .error (.emptyName what parent)
  else if isIdentifier (camel name) then .ok (camel name)
  else .error (.invalidIdentifier what (camel name))

/-- The Go name of a service. -/
def serviceName (name : String) : Except GenerationError String :=
  goName .service "file" name

/-- The help text of a subcommand. -/
def longText (method : String) : String :=
  method ++ " client; call by piping a request in to stdin (--stdin), reading a file (--file),"
    ++ " or via flags per field"

/-- The Go function that makes the command for a method. -/
def constructorName (service method : String) : String :=
  "_" ++ service ++ method ++ "ClientCommand"

/-- The subcommand of a method whose names in Go and whose request type are known. -/
def subcommandOf (service method inputType : String) (m : Method) (init : Skeleton)
    (flags : List Flag) : Subcommand where
  service := service
  method := method
  constructor := constructorName service method
  useName := lowered method
  long := longText method
  inputType := inputType
  init := init
  flags := flags
  mode := .ofMethod m
  steps := (StreamingMode.ofMethod m).dispatch

/-- The subcommand of a method. The type of its request is that of the skeleton, which has to
allocate a message. -/
def assemble (service : String) (m : Method) (init : Skeleton) (flags : List Flag) :
    Except GenerationError Subcommand := do
  let goService ← serviceName service
  let goMethod ← goName .method service m.name
  match init with
  | .construct inputType _ => return subcommandOf goService goMethod inputType m init flags
  | _ => throw (.missingInputType service m.name)

/-- The first text of a list that occurs earlier in it, when `seen` came before the list. -/
def repeated? (seen : List String) : List String → Option String
  | [] => none
  | s :: ss => if s ∈ seen then some s else repeated? (s :: seen) ss

/-- The connection defaults, the group command, the subcommands and their list, in this order. -/
def assembleService (s : Service) (subcommands : List Subcommand) (defaults : ConnectionDefaults) :
    Except GenerationError (List CommandUnit) := do
  let name ← serviceName s.name
  match repeated? [] (subcommands.map Subcommand.useName) with
  | some useName => throw (.duplicateSubcommand s.name useName)
  | none =>
    return .group ⟨name, lowered name, defaults⟩ :: subcommands.map .subcommand
      ++ [.subcommandList name (subcommands.map Subcommand.constructor)]

/-- Nothing is repeated exactly in a list without duplicates that meets nothing seen before. -/
theorem repeated?_eq_none_iff {seen ss : List String} :
    repeated? seen ss = none ↔ ss.Nodup ∧ ∀ s ∈ ss, s ∉ seen := by
  induction ss generalizing seen with
  | nil => simp [repeated?]
  | cons s ss ih =>
    by_cases h : s ∈ seen
    · simp [repeated?, h]
    · simp only [repeated?, h, if_false, ih, List.mem_cons, List.nodup_cons, forall_eq_or_imp,
        not_false_eq_true, true_and, not_or]
      constructor
      · rintro ⟨hn, hs⟩
        exact ⟨⟨fun hm => (hs s hm).1 rfl, hn⟩, fun t ht => (hs t ht).2⟩
      · rintro ⟨⟨hm, hn⟩, hs⟩
        exact ⟨hn, fun t ht => ⟨fun he => hm (he ▸ ht), hs t ht⟩⟩

end ServiceCli.Command
