import ServiceCli.Proto.Message

/-!
# Places in a declaration tree

The messages that one file declares form a tree. A declaration is told by its position: the
index of a top-level message, then that of a message nested in it, and so on. A `Site` is a
declaration together with its position and the names of the messages around it, which give it
its name in Go (`Site.goName`).

`sites` lists every declaration of a tree in preorder: a message before those nested in it, and
those before its later siblings.
-/

namespace ServiceCli.Tree

open Proto

/-- Where a declaration stands: the indices on the way to it, outermost first. -/
abbrev Position := List Nat

/-- A declaration and where it stands. -/
structure Site where
  position : Position
  /-- The names of the enclosing messages, outermost first. -/
  scope : List String
  message : Message
  deriving DecidableEq, Repr

namespace Site

/-- Whether the declaration stands inside another message. -/
def nested (s : Site) : Bool :=
  !s.scope.isEmpty

/-- What Go writes before the name of a type that is nested in the messages `scope`. -/
def prefixOf (scope : List String) : String :=
  String.join (scope.map (· ++ "_"))

/-- What Go writes before the name of this type. -/
def typePrefix (s : Site) : String :=
  prefixOf s.scope

/-- The name of the type in Go. -/
def goName (s : Site) : String :=
  s.typePrefix ++ s.message.name

end Site

/-- The declaration at a position. -/
def at? : List Message → Position → Option Message
  | _, [] => none
  | ms, [i] => ms[i]?
  | ms, i :: j :: p => ms[i]?.bind fun m => at? m.nested (j :: p)

mutual

/-- The declaration `m` at a position and everything declared in it, in preorder. -/
def sitesOf (scope : List String) (position : Position) : Message → List Site
  | ⟨n, fs, ms, e⟩ => ⟨position, scope, ⟨n, fs, ms, e⟩⟩ :: sitesFrom (scope ++ [n]) position 0 ms

/-- The declarations of a list of siblings, the first of which has the index `i`, in preorder. -/
def sitesFrom (scope : List String) (outer : Position) (i : Nat) : List Message → List Site
  | [] => []
  | m :: ms => sitesOf scope (outer ++ [i]) m ++ sitesFrom scope outer (i + 1) ms

end

/-- Every declaration of a tree, in preorder. -/
def sites (roots : List Message) : List Site :=
  sitesFrom [] [] 0 roots

end ServiceCli.Tree
