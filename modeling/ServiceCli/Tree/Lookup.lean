import ServiceCli.Name.Qualified
import ServiceCli.Tree.Site

/-!
# Looking up message types

A type is looked up among the declarations of one file by a key. A bare key finds the first
declaration of that name in preorder (`search`). A key with a leading dot, or with several
names, is walked name by name from the top level (`walk`), and at each level only the first
sibling of a name is entered.

A reference as it is written in a declaration first loses the package of the file
(`Declarations.key?`). A fully qualified reference becomes a key with a leading dot and is
therefore matched by its exact path; a reference into another package has no key and is never
found.
-/

namespace ServiceCli.Tree

open Proto Text

/-- The messages that one file declares, and its package. -/
structure Declarations where
  roots : List Message
  package : String
  deriving DecidableEq, Repr

/-- The first message of that name in a list of siblings, with its index when the first sibling
has the index `i`. -/
def firstNamed (name : String) (i : Nat) : List Message → Option (Nat × Message)
  | [] => none
  | m :: ms => if m.name = name then some (i, m) else firstNamed name (i + 1) ms

/-- The declaration at the end of a path of names. Every name but the last one is that of an
enclosing message. -/
def walk (scope : List String) (outer : Position) : List Message → List String → Option Site
  | _, [] => none
  | ms, [last] => (firstNamed last 0 ms).map fun (i, m) => ⟨outer ++ [i], scope, m⟩
  | ms, name :: next :: names =>
    (firstNamed name 0 ms).bind fun (i, m) =>
      walk (scope ++ [m.name]) (outer ++ [i]) m.nested (next :: names)

mutual

/-- The first declaration of a name in `m` and everything declared in it. -/
def searchIn (name : String) (scope : List String) (position : Position) :
    Message → Option Site
  | ⟨n, fs, ms, e⟩ =>
    if n = name then some ⟨position, scope, ⟨n, fs, ms, e⟩⟩
    else searchFrom name (scope ++ [n]) position 0 ms

/-- The first declaration of a name among siblings, the first of which has the index `i`, and
everything declared in them. -/
def searchFrom (name : String) (scope : List String) (outer : Position) (i : Nat) :
    List Message → Option Site
  | [] => none
  | m :: ms =>
    match searchIn name scope (outer ++ [i]) m with
    | some s => some s
    | none => searchFrom name scope outer (i + 1) ms

end

/-- The first declaration of a name in preorder. -/
def search (name : String) (roots : List Message) : Option Site :=
  searchFrom name [] [] 0 roots

/-- The names in a key: its pieces between dots, without the empty ones. -/
def keyNames (key : String) : List String :=
  (pieces '.' key).filter (· != "")

/-- Whether a key is matched by its exact path even if it is a single name. -/
def isExact (key : String) : Bool :=
  (afterLead "." key).isSome

/-- The declaration that a key finds. -/
def resolve (roots : List Message) (key : String) : Option Site :=
  match keyNames key with
  | [] => none
  | [name] => if isExact key then walk [] [] roots [name] else search name roots
  | names => walk [] [] roots names

namespace Declarations

/-- The key under which a reference is looked up, if it can be found here at all. -/
def key? (d : Declarations) (reference : String) : Option String :=
  (relativePart d.package reference).bind fun rest =>
    if rest = "" then none
    else if isExact reference then some ("." ++ rest)
    else some rest

/-- The declaration that a reference refers to. -/
def reference (d : Declarations) (ref : String) : Option Site :=
  (d.key? ref).bind (resolve d.roots)

/-- The declaration that a field refers to. -/
def field (d : Declarations) (f : Field) : Option Site :=
  f.typeName.bind d.reference

end Declarations

end ServiceCli.Tree
