import ServiceCli.Command.Assembly
import ServiceCli.Proofs.Result

/-!
# What is assembled

The subcommand of a method carries the Go names of its service and its method
(`eq_of_assemble`, `MadeFor`), and the parts of a service are its group, its subcommands and their list
(`assembleService_eq_ok_iff`). Either is refused where a name has no form in Go
(`goName_eq_ok_iff`), and nothing else is refused but a second subcommand of one name, provided
that the request has a type (`assemble_construct_eq_ok_iff`).
-/

namespace ServiceCli.Command

open Proto Request Text

/-- Go can use the name of a service or a method. -/
def IsUsable (name : String) : Prop :=
  name ≠ "" ∧ isIdentifier (camel name)

instance (name : String) : Decidable (IsUsable name) :=
  inferInstanceAs (Decidable (_ ∧ _))

theorem goName_eq_ok_iff {what : Named} {parent name s : String} :
    goName what parent name = .ok s ↔ IsUsable name ∧ s = camel name := by
  unfold goName IsUsable
  split
  · next h => simp [h]
  · next h =>
    split
    · next hi => simp [h, hi, eq_comm]
    · next hi => simp [h, hi]

theorem assemble_construct_eq_ok_iff {service typeName : String} {m : Method}
    {fields : List (String × Skeleton)} {flags : List Flag} {c : Subcommand} :
    assemble service m (.construct typeName fields) flags = .ok c ↔
      IsUsable service ∧ IsUsable m.name ∧
        c = subcommandOf (camel service) (camel m.name) typeName m (.construct typeName fields)
          flags := by
  rw [assemble, bind_eq_ok_iff]
  constructor
  · rintro ⟨goService, hs, h⟩
    obtain ⟨goMethod, hm, h⟩ := bind_eq_ok_iff.1 h
    obtain ⟨hservice, rfl⟩ := goName_eq_ok_iff.1 hs
    obtain ⟨hmethod, rfl⟩ := goName_eq_ok_iff.1 hm
    exact ⟨hservice, hmethod, (Except.ok.inj h).symm⟩
  · rintro ⟨hs, hm, rfl⟩
    exact ⟨_, goName_eq_ok_iff.2 ⟨hs, rfl⟩,
      bind_eq_ok_iff.2 ⟨_, goName_eq_ok_iff.2 ⟨hm, rfl⟩, rfl⟩⟩

/-- All of a subcommand but the type and the value of its request is fixed by the names of its
service and its method and by the streams of the method. -/
theorem eq_of_assemble {service : String} {m : Method} {init : Skeleton} {flags : List Flag}
    {c : Subcommand} (h : assemble service m init flags = .ok c) :
    IsUsable service ∧ IsUsable m.name ∧
      c = subcommandOf (camel service) (camel m.name) c.inputType m init flags := by
  cases init with
  | construct typeName fields =>
    obtain ⟨hs, hm, rfl⟩ := assemble_construct_eq_ok_iff.1 h
    exact ⟨hs, hm, rfl⟩
  | emptyList typeName | nothing =>
    obtain ⟨goService, -, h⟩ := bind_eq_ok_iff.1 h
    obtain ⟨goMethod, -, h⟩ := bind_eq_ok_iff.1 h
    cases h

/-- What a subcommand has from its service and its method, whatever its request is made of. -/
structure MadeFor (parent : String) (m : Method) (flags : List Flag) (c : Subcommand) : Prop where
  service : c.service = camel parent
  method : c.method = camel m.name
  constructor : c.constructor = constructorName (camel parent) (camel m.name)
  useName : c.useName = lowered (camel m.name)
  flags : c.flags = flags
  mode : c.mode = .ofMethod m
  steps : c.steps = (StreamingMode.ofMethod m).dispatch

theorem madeFor_of_assemble {service : String} {m : Method} {init : Skeleton} {flags : List Flag}
    {c : Subcommand} (h : assemble service m init flags = .ok c) : MadeFor service m flags c := by
  obtain ⟨-, -, hc⟩ := eq_of_assemble h
  rw [hc]
  exact ⟨rfl, rfl, rfl, rfl, rfl, rfl, rfl⟩

theorem init_of_assemble {service : String} {m : Method} {init : Skeleton} {flags : List Flag}
    {c : Subcommand} (h : assemble service m init flags = .ok c) : c.init = init := by
  obtain ⟨-, -, hc⟩ := eq_of_assemble h
  rw [hc]
  rfl

theorem assembleService_eq_ok_iff {s : Service} {cs : List Subcommand}
    {defaults : ConnectionDefaults} {units : List CommandUnit} :
    assembleService s cs defaults = .ok units ↔
      IsUsable s.name ∧ (cs.map Subcommand.useName).Nodup ∧
        units = .group ⟨camel s.name, lowered (camel s.name), defaults⟩ :: cs.map .subcommand
          ++ [.subcommandList (camel s.name) (cs.map Subcommand.constructor)] := by
  have hnodup : repeated? [] (cs.map Subcommand.useName) = none ↔
      (cs.map Subcommand.useName).Nodup := by
    simp [repeated?_eq_none_iff]
  rw [assembleService, bind_eq_ok_iff, ← hnodup]
  constructor
  · rintro ⟨name, hs, h⟩
    obtain ⟨husable, rfl⟩ := goName_eq_ok_iff.1 hs
    split at h
    · cases h
    · next hnone => exact ⟨husable, hnone, (Except.ok.inj h).symm⟩
  · rintro ⟨hs, hnone, rfl⟩
    refine ⟨_, goName_eq_ok_iff.2 ⟨hs, rfl⟩, ?_⟩
    rw [hnone]
    rfl

end ServiceCli.Command
