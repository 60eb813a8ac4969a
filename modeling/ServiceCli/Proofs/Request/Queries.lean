import ServiceCli.Proofs.Request.Skeletons

/-!
# Remembering cannot be seen

While a file is worked on, types are looked up, flags are collected and skeletons are built in any
order, and all of it shares one log. A `Query` is one such step, `answers` and `logAfter` are what
a list of them gives and leaves behind. `answers_eq_fresh` says that every answer is the one that
the same query gets at the very start, and that the log holds the keys that were looked up so far
with the answers of the tree, and nothing else.
-/

namespace ServiceCli.Request

open Proto ServiceCli.Tree

/-- What is asked of the declarations of a file while it is worked on. -/
inductive Query where
  /-- The declaration that a key finds. -/
  | key (key : String)
  | reference (ref : String)
  | field (f : Field)
  /-- What the log has for a key. -/
  | logged (key : String)
  | flags (path lead : String) (s : Site) (help : String)
  | skeleton (s : Site) (typePrefix : String) (depth : Nat)

/-- The answer to a query. -/
inductive Answer where
  | site (found : Option Site)
  | logged (entry : Option (Option Site))
  | flags (found : List Flag)
  | skeleton (value : Skeleton)

namespace Query

/-- How a query is answered. -/
def run (d : Declarations) : Query → Lookup Answer
  | key k => Answer.site <$> d.resolveKey k
  | reference ref => Answer.site <$> d.resolveReference ref
  | field f => Answer.site <$> d.resolveField f
  | logged k => do return .logged ((← get).get? k)
  | flags path lead s help => Answer.flags <$> Request.flags d path lead s help
  | skeleton s typePrefix depth => Answer.skeleton <$> Request.skeleton d s typePrefix depth

/-- Whether a query is about the declarations, and not about the log. -/
def isAboutTree : Query → Bool
  | logged _ => false
  | _ => true

/-- The keys that are looked up to answer a query. -/
def keys (d : Declarations) : Query → List String
  | key k => [k]
  | reference ref => (d.key? ref).toList
  | field f => d.fieldKeys f
  | logged _ => []
  | flags _ _ s _ => keysBelow d (walkedFields d) (maxDepth + 1) [s.position] s
  | skeleton s _ depth => keysBelow d id (maxDepth + 1 - depth) [s.position] s

theorem exists_yields_run (d : Declarations) {q : Query} (h : q.isAboutTree) :
    ∃ a, Yields d (q.run d) a (q.keys d) := by
  cases q with
  | key k => exact ⟨_, (yields_resolveKey k).map _⟩
  | reference ref => exact ⟨_, (yields_resolveReference ref).map _⟩
  | field f => exact ⟨_, (yields_resolveField f).map _⟩
  | logged k => simp [isAboutTree] at h
  | flags path lead s help => exact ⟨_, (yields_flags d path lead s help).map _⟩
  | skeleton s typePrefix depth => exact ⟨_, (yields_skeleton d s typePrefix depth).map _⟩

/-- From every faithful log a query about the declarations is answered as at the start. -/
theorem fst_run_eq_fresh {d : Declarations} {q : Query} (h : q.isAboutTree) {log : LookupLog}
    (hl : log.Faithful d.roots) : ((q.run d).run log).1 = ((q.run d).run {}).1 := by
  obtain ⟨a, ha⟩ := exists_yields_run d h
  rw [ha.fst_run hl, ha.fst_run (LookupLog.faithful_empty _)]

/-- A query notes the keys that it looks up. -/
theorem snd_run (d : Declarations) (q : Query) {log : LookupLog} (hl : log.Faithful d.roots) :
    ((q.run d).run log).2 = log.noteAll d.roots (q.keys d) := by
  by_cases h : q.isAboutTree
  · obtain ⟨a, ha⟩ := exists_yields_run d h
    rw [ha log hl]
  · cases q with
    | logged k => rfl
    | _ => simp [isAboutTree] at h

end Query

/-! ## Many queries -/

/-- The answers to some queries, one after the other from the start. -/
def answers (d : Declarations) (qs : List Query) : List Answer :=
  ((qs.mapM (Query.run d)).run {}).1

/-- The log after some queries. -/
def logAfter (d : Declarations) (qs : List Query) : LookupLog :=
  ((qs.mapM (Query.run d)).run {}).2

theorem run_queries (d : Declarations) :
    ∀ (qs : List Query) {log : LookupLog}, log.Faithful d.roots →
      List.Forall₂ (fun q a => q.isAboutTree → a = ((q.run d).run {}).1) qs
          ((qs.mapM (Query.run d)).run log).1 ∧
        ((qs.mapM (Query.run d)).run log).2 = log.noteAll d.roots (qs.flatMap (Query.keys d))
  | [], log, _ => ⟨.nil, rfl⟩
  | q :: qs, log, h => by
    obtain ⟨hans, hlog⟩ := run_queries d qs (h.noteAll (q.keys d))
    have hstep : (List.mapM (Query.run d) (q :: qs)).run log =
        (((q.run d).run log).1 :: ((qs.mapM (Query.run d)).run ((q.run d).run log).2).1,
          ((qs.mapM (Query.run d)).run ((q.run d).run log).2).2) := by
      rw [List.mapM_cons, StateT.run_bind]
      rfl
    rw [hstep, q.snd_run d h, List.flatMap_cons, LookupLog.noteAll_append]
    exact ⟨.cons (fun ha => Query.fst_run_eq_fresh ha h) hans, hlog⟩

theorem logAfter_eq (d : Declarations) (qs : List Query) :
    logAfter d qs = LookupLog.noteAll d.roots {} (qs.flatMap (Query.keys d)) :=
  (run_queries d qs (LookupLog.faithful_empty _)).2

theorem faithful_logAfter (d : Declarations) (qs : List Query) :
    (logAfter d qs).Faithful d.roots := by
  rw [logAfter_eq]
  exact (LookupLog.faithful_empty _).noteAll _

/-- Whatever was asked before, a query about the declarations is answered as at the start. As
many keys are in the log as were looked up, one walk was made for each, and each has the answer
that it gets at the start. What has no key here leaves the log as it is. -/
theorem answers_eq_fresh (d : Declarations) (qs : List Query) :
    List.Forall₂ (fun q a => q.isAboutTree → a = ((q.run d).run {}).1) qs (answers d qs) ∧
      (logAfter d qs).searches = (logAfter d qs).size ∧
      (logAfter d qs).size = (qs.flatMap (Query.keys d)).dedup.length ∧
      (∀ k, (logAfter d qs).get? k =
        if k ∈ qs.flatMap (Query.keys d) then some ((d.resolveKey k).run {}).1 else none) ∧
      (∀ ref, relativePart d.package ref = none ∨ relativePart d.package ref = some "" →
        ((d.resolveReference ref).run (logAfter d qs)).2 = logAfter d qs) ∧
      ∀ f : Field, f.typeName = none →
        ((d.resolveField f).run (logAfter d qs)).2 = logAfter d qs := by
  refine ⟨(run_queries d qs (LookupLog.faithful_empty _)).1, (faithful_logAfter d qs).searches,
    ?_, ?_, ?_, ?_⟩
  · rw [logAfter_eq, LookupLog.size_noteAll]
  · intro k
    have hfresh := (yields_resolveKey k).fst_run (LookupLog.faithful_empty d.roots)
    rw [logAfter_eq, (LookupLog.faithful_empty _).get?_noteAll, hfresh]
    rfl
  · intro ref href
    have hkey : d.key? ref = none := by
      rcases href with h | h <;> simp [Declarations.key?, h]
    rw [Declarations.resolveReference, hkey]
    rfl
  · intro f hf
    rw [Declarations.resolveField, hf]
    rfl

/-- Two messages, each with a field that holds the other. -/
def circle : Declarations where
  package := "pb"
  roots :=
    [{ name := "A", fields := [{ name := "b", wireType := .message, typeName := ".pb.B" }] },
      { name := "B"
        fields := [{ name := "x", wireType := .string },
          { name := "a", wireType := .message, typeName := ".pb.A" }] }]

/-- The first message of the circle. -/
def circleStart : Site where
  position := [0]
  scope := []
  message := { name := "A", fields := [{ name := "b", wireType := .message, typeName := ".pb.B" }] }

/-- Flags are collected and a skeleton is built from the first message of the circle, after which
it is looked up by its name. -/
def circleQueries : List Query :=
  [.flags "reqArgs" "" circleStart "", .skeleton circleStart "" 0, .key "A"]

/-- Three keys are in the log then, and a name of another package adds none. -/
theorem logAfter_circleQueries :
    (logAfter circle circleQueries).size = 3 ∧ relativePart circle.package ".other.A" = none ∧
      ((circle.resolveReference ".other.A").run (logAfter circle circleQueries)).2
        = logAfter circle circleQueries := by
  have hpart : relativePart circle.package ".other.A" = none := by decide
  obtain ⟨-, -, hsize, -, href, -⟩ := answers_eq_fresh circle circleQueries
  refine ⟨?_, hpart, href ".other.A" (Or.inl hpart)⟩
  rw [hsize]
  decide

end ServiceCli.Request
