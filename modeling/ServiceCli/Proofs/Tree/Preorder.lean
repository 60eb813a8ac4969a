import Mathlib.Data.List.Lex
import ServiceCli.Proofs.Tree.FullNames

/-!
# The first declaration of a name

Positions are compared number by number, so that a message comes before those nested in it, and
these before its later siblings. `sites` lists a tree in this order (`pairwise_sites`), and the
search for a name takes the first entry of the list that has it (`search_eq_find?`). So a bare name
finds, of all declarations of that name, the one whose position comes first
(`resolveKey_first_named`).

The scope of a declaration is made of the messages around it, which `enclosing` reads off its
position alone.
-/

namespace ServiceCli.Tree

open Proto Text Request

/-! ## The order of positions -/

mutual

/-- What is nested in a message lies below its position. -/
theorem prefix_of_mem_sitesOf {s : Site} :
    ∀ {m : Message} {scope : List String} {p : Position},
      s ∈ sitesOf scope p m → p <+: s.position
  | ⟨n, fs, ms, e⟩, scope, p, h => by
    rw [sitesOf] at h
    rcases List.mem_cons.1 h with rfl | h
    · exact List.prefix_rfl
    · obtain ⟨j, rest, -, hs⟩ := exists_index_of_mem_sitesFrom h
      exact ⟨j :: rest, hs.symm⟩

/-- What is declared from an index on lies below that index or a later one. -/
theorem exists_index_of_mem_sitesFrom {s : Site} :
    ∀ {ms : List Message} {scope : List String} {outer : Position} {i : Nat},
      s ∈ sitesFrom scope outer i ms → ∃ j rest, i ≤ j ∧ s.position = outer ++ j :: rest
  | [], scope, outer, i, h => by simp [sitesFrom] at h
  | m :: ms, scope, outer, i, h => by
    rw [sitesFrom] at h
    rcases List.mem_append.1 h with h | h
    · obtain ⟨rest, hs⟩ := prefix_of_mem_sitesOf h
      exact ⟨i, rest, Nat.le_refl i, by simp [← hs]⟩
    · obtain ⟨j, rest, hij, hs⟩ := exists_index_of_mem_sitesFrom h
      exact ⟨j, rest, by omega, hs⟩

end

mutual

theorem pairwise_sitesOf :
    ∀ (m : Message) (scope : List String) (p : Position),
      (sitesOf scope p m).Pairwise fun s t => s.position < t.position
  | ⟨n, fs, ms, e⟩, scope, p => by
    rw [sitesOf, List.pairwise_cons]
    refine ⟨fun t ht => ?_, pairwise_sitesFrom ms (scope ++ [n]) p 0⟩
    obtain ⟨j, rest, -, ht⟩ := exists_index_of_mem_sitesFrom ht
    have hlt : List.Lex (· < ·) (p ++ []) (p ++ j :: rest) := List.Lex.append_left _ .nil p
    rwa [List.append_nil, ← ht] at hlt

theorem pairwise_sitesFrom :
    ∀ (ms : List Message) (scope : List String) (outer : Position) (i : Nat),
      (sitesFrom scope outer i ms).Pairwise fun s t => s.position < t.position
  | [], scope, outer, i => by
    rw [sitesFrom]
    exact .nil
  | m :: ms, scope, outer, i => by
    rw [sitesFrom, List.pairwise_append]
    refine ⟨pairwise_sitesOf m scope _, pairwise_sitesFrom ms scope outer (i + 1),
      fun s hs t ht => ?_⟩
    obtain ⟨rest, hs⟩ := prefix_of_mem_sitesOf hs
    obtain ⟨j, rest', hij, ht⟩ := exists_index_of_mem_sitesFrom ht
    rw [← hs, ht, List.append_assoc]
    exact List.Lex.append_left _ (.rel (Nat.lt_of_succ_le hij)) outer

end

/-- The declarations of a tree are listed in the order of their positions. -/
theorem pairwise_sites (roots : List Message) :
    (sites roots).Pairwise fun s t => s.position < t.position :=
  pairwise_sitesFrom roots [] [] 0

/-! ## The search for a name -/

mutual

theorem searchIn_eq_find? (name : String) :
    ∀ (m : Message) (scope : List String) (p : Position),
      searchIn name scope p m = (sitesOf scope p m).find? fun s => s.message.name = name
  | ⟨n, fs, ms, e⟩, scope, p => by
    rw [searchIn, sitesOf, List.find?_cons, searchFrom_eq_find? name ms]
    by_cases h : n = name <;> simp [h]

theorem searchFrom_eq_find? (name : String) :
    ∀ (ms : List Message) (scope : List String) (outer : Position) (i : Nat),
      searchFrom name scope outer i ms
        = (sitesFrom scope outer i ms).find? fun s => s.message.name = name
  | [], scope, outer, i => by rw [searchFrom, sitesFrom, List.find?_nil]
  | m :: ms, scope, outer, i => by
    rw [searchFrom, sitesFrom, List.find?_append, searchIn_eq_find? name m,
      searchFrom_eq_find? name ms]
    cases (sitesOf scope (outer ++ [i]) m).find? fun s => s.message.name = name <;> rfl

end

/-- The search takes the first declaration of the name in the list of all. -/
theorem search_eq_find? (name : String) (roots : List Message) :
    search name roots = (sites roots).find? fun s => s.message.name = name :=
  searchFrom_eq_find? name roots [] [] 0

/-- A search finds the declaration of a name that comes before all others of that name. -/
theorem search_eq_some_iff {name : String} {roots : List Message} {s : Site} :
    search name roots = some s ↔ Declared roots s ∧ s.message.name = name ∧
      ∀ t, Declared roots t → t.message.name = name → t = s ∨ s.position < t.position := by
  have hsites := pairwise_sites roots
  simp only [← mem_sites_iff]
  rw [search_eq_find?, List.find?_eq_some_iff_append]
  constructor
  · rintro ⟨hs, before, after, hsplit, hbefore⟩
    rw [hsplit, List.pairwise_append, List.pairwise_cons] at hsites
    refine ⟨by simp [hsplit], by simpa using hs, fun t ht hname => ?_⟩
    rw [hsplit, List.mem_append, List.mem_cons] at ht
    rcases ht with ht | rfl | ht
    · exact absurd hname (by simpa using hbefore t ht)
    · exact Or.inl rfl
    · exact Or.inr (hsites.2.1.1 t ht)
  · rintro ⟨hs, hname, hfirst⟩
    obtain ⟨before, after, hsplit⟩ := List.append_of_mem hs
    refine ⟨by simpa using hname, before, after, hsplit, fun t ht => ?_⟩
    rw [hsplit, List.pairwise_append] at hsites
    have hlt : t.position < s.position := hsites.2.2 t ht s List.mem_cons_self
    simp only [Bool.not_eq_true', decide_eq_false_iff_not]
    intro htname
    rcases hfirst t (by simp [hsplit, ht]) htname with rfl | hgt
    · exact lt_irrefl _ hlt
    · exact lt_asymm hlt hgt

/-- A name is found exactly if some declaration has it. -/
theorem isSome_search_iff {name : String} {roots : List Message} :
    (search name roots).isSome ↔ ∃ s, Declared roots s ∧ s.message.name = name := by
  rw [search_eq_find?, List.find?_isSome]
  simp only [decide_eq_true_eq, mem_sites_iff]

/-- A key that is a single name is searched for. -/
theorem resolve_of_bare {name : String} (roots : List Message) (hne : name ≠ "")
    (hdot : '.' ∉ name.toList) : resolve roots name = search name roots := by
  have hnames : keyNames name = [name] := by simp [keyNames, pieces_of_notMem hdot, hne]
  have hexact : isExact name = false := by
    rw [isExact, Option.isSome_eq_false_iff, Option.isNone_iff_eq_none,
      Option.eq_none_iff_forall_ne_some]
    rintro rest h
    rw [afterLead_eq_some_iff.1 h] at hdot
    simp at hdot
  rw [resolve, hnames]
  simp [hexact]

/-! ## The messages around a declaration -/

/-- The messages around the one at a position, outermost first. -/
def enclosing : List Message → Position → List Message
  | ms, i :: j :: p =>
    match ms[i]? with
    | some m => m :: enclosing m.nested (j :: p)
    | none => []
  | _, _ => []

theorem enclosing_concat {i : Nat} :
    ∀ {p : Position} {ms : List Message} {m : Message}, at? ms p = some m →
      enclosing ms (p ++ [i]) = enclosing ms p ++ [m]
  | [], ms, m, h => by simp [at?] at h
  | [j], ms, m, h => by
    rw [at?] at h
    simp [enclosing, h]
  | j :: k :: p, ms, m, h => by
    rw [at?] at h
    obtain ⟨m', hm', h⟩ := Option.bind_eq_some_iff.1 h
    have ih : enclosing m'.nested (k :: p ++ [i]) = enclosing m'.nested (k :: p) ++ [m] :=
      enclosing_concat h
    rw [List.cons_append] at ih
    simp [enclosing, hm', ih]

/-- The scope of a declaration holds the names of the messages around it. -/
theorem Declared.scope_eq {roots : List Message} {s : Site} (h : Declared roots s) :
    s.scope = (enclosing roots s.position).map Message.name := by
  induction h with
  | top hi => rfl
  | nested hs hi ih => rw [enclosing_concat hs.at?_position, List.map_append, ← ih]; rfl

/-! ## Bare names -/

namespace Declarations

/-- Whatever was looked up before, a bare name finds a message exactly if some declaration has that
name, and of these it finds the first one in the list of all, which is the one whose position comes
first. The scope of what is found holds the names of exactly the messages around it, it is nested if
there are any, and its name in Go is made of these names and its own. -/
theorem resolveKey_first_named (d : Declarations) (before : List Query) {name : String}
    (hne : name ≠ "") (hdot : '.' ∉ name.toList) :
    (((d.resolveKey name).run (logAfter d before)).1.isSome ↔
        ∃ s, Declared d.roots s ∧ s.message.name = name) ∧
      ∀ s, ((d.resolveKey name).run (logAfter d before)).1 = some s →
        (sites d.roots).find? (fun t => t.message.name = name) = some s ∧
        (Declared d.roots s ∧ s.message.name = name ∧
          ∀ t, Declared d.roots t → t.message.name = name → t = s ∨ s.position < t.position) ∧
        s.scope = (enclosing d.roots s.position).map Message.name ∧
        (s.nested ↔ enclosing d.roots s.position ≠ []) ∧
        s.typePrefix ++ name = String.intercalate "_" (s.scope ++ [name]) := by
  rw [(yields_resolveKey name).fst_run (faithful_logAfter d before), resolve_of_bare _ hne hdot]
  refine ⟨isSome_search_iff, fun s h => ?_⟩
  have hfirst := search_eq_some_iff.1 h
  have hscope := hfirst.1.scope_eq
  refine ⟨search_eq_find? name d.roots ▸ h, hfirst, hscope, by simp [Site.nested, hscope], ?_⟩
  rw [← hfirst.2.1, ← goName_eq, Site.goName]

/-- Two messages, each with one of the same name nested in it, and a third one of that name. -/
def namesakes : Declarations where
  package := "pb"
  roots :=
    [{ name := "First", nested := [{ name := "Inner", nested := [{ name := "Item" }] }] },
      { name := "Second", nested := [{ name := "Item" }] }, { name := "Item" }]

/-- The one that is nested deepest comes first. -/
theorem first_named_namesakes :
    "Item" ≠ "" ∧ '.' ∉ "Item".toList ∧
      ((namesakes.resolveKey "Item").run (logAfter namesakes [.reference ".pb.Item"])).1
        = some ⟨[0, 0, 0], ["First", "Inner"], { name := "Item" }⟩ ∧
      Declared namesakes.roots ⟨[2], [], { name := "Item" }⟩ ∧ ([0, 0, 0] : Position) < [2] ∧
      Site.prefixOf ["First", "Inner"] ++ "Item" = "First_Inner_Item" := by
  have hne : "Item" ≠ "" := by decide
  have hdot : '.' ∉ "Item".toList := by decide
  have hfound : ((namesakes.resolveKey "Item").run (logAfter namesakes [.reference ".pb.Item"])).1
      = some ⟨[0, 0, 0], ["First", "Inner"], { name := "Item" }⟩ := by
    rw [(yields_resolveKey "Item").fst_run (faithful_logAfter _ _), resolve_of_bare _ hne hdot]
    decide
  have htop : Declared namesakes.roots ⟨[2], [], { name := "Item" }⟩ := .top rfl
  obtain ⟨-, hspec⟩ := resolveKey_first_named namesakes [.reference ".pb.Item"] hne hdot
  obtain ⟨-, ⟨-, -, hfirst⟩, -, -, hname⟩ := hspec _ hfound
  refine ⟨hne, hdot, hfound, htop, (hfirst _ htop rfl).resolve_left (by decide), ?_⟩
  exact hname.trans (by decide)

end Declarations

end ServiceCli.Tree
