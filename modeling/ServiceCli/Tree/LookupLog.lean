import ServiceCli.Tree.Lookup

/-!
# Lookups that are remembered

While one file is worked on, the same few types are looked up many times. A `LookupLog` keeps
every key that was looked up with its answer, misses included, in the order of the first
lookups. `LookupLog.resolve` walks the tree only for a key that is not in the log.
-/

namespace ServiceCli.Tree

open Proto

/-- The keys that were looked up, with their answers, and how often the tree was walked. -/
structure LookupLog where
  entries : List (String × Option Site) := []
  searches : Nat := 0
  deriving DecidableEq, Repr

/-- A computation that looks up types. -/
abbrev Lookup := StateM LookupLog

namespace LookupLog

/-- The logged answer for a key. -/
def get? (log : LookupLog) (key : String) : Option (Option Site) :=
  log.entries.lookup key

/-- The number of keys in the log. -/
def size (log : LookupLog) : Nat :=
  log.entries.length

/-- The log after the tree was walked for a new key. -/
def record (log : LookupLog) (key : String) (answer : Option Site) : LookupLog :=
  ⟨log.entries ++ [(key, answer)], log.searches + 1⟩

end LookupLog

namespace Declarations

/-- Looks a key up: in the log, or else in the tree. -/
def resolveKey (d : Declarations) (key : String) : Lookup (Option Site) := fun log =>
  match log.get? key with
  | some answer => (answer, log)
  | none =>
    let answer := resolve d.roots key
    (answer, log.record key answer)

/-- Looks a reference up. One that has no key here is not found and is not logged. -/
def resolveReference (d : Declarations) (ref : String) : Lookup (Option Site) :=
  match d.key? ref with
  | some key => d.resolveKey key
  | none => pure none

/-- Looks up the type that a field refers to. -/
def resolveField (d : Declarations) (f : Field) : Lookup (Option Site) :=
  match f.typeName with
  | some ref => d.resolveReference ref
  | none => pure none

end Declarations

end ServiceCli.Tree
