import ServiceCli.Proto.Field

/-!
# Message declarations

A message has fields and may declare other messages inside itself, to any depth. Two messages
can be equal and yet be two declarations; where that matters a declaration is told by its place
in the tree (`ServiceCli.Tree.Site`), never by its contents.
-/

namespace ServiceCli.Proto

/-- A message declaration with the declarations inside it. -/
structure Message where
  name : String
  /-- The fields, in order. -/
  fields : List Field := []
  /-- The messages declared inside this one, in order. -/
  nested : List Message := []
  /-- Whether the message is the key and value pair that stands for one entry of a map field. -/
  mapEntry : Bool := false
  deriving Repr, Inhabited

namespace Message

mutual

/-- Whether two declarations are equal, nested ones included. -/
def decEq : (a b : Message) → Decidable (a = b)
  | ⟨n, fs, ms, e⟩, ⟨n', fs', ms', e'⟩ =>
    if hn : n = n' then
      if hf : fs = fs' then
        if he : e = e' then
          match decEqList ms ms' with
          | isTrue hm => isTrue (by rw [hn, hf, he, hm])
          | isFalse hm => isFalse fun h => hm (by injection h)
        else isFalse fun h => he (by injection h)
      else isFalse fun h => hf (by injection h)
    else isFalse fun h => hn (by injection h)

/-- Whether two lists of declarations are equal. -/
def decEqList : (as bs : List Message) → Decidable (as = bs)
  | [], [] => isTrue rfl
  | [], _ :: _ => isFalse fun h => nomatch h
  | _ :: _, [] => isFalse fun h => nomatch h
  | a :: as, b :: bs =>
    match decEq a b with
    | isTrue hab =>
      match decEqList as bs with
      | isTrue hs => isTrue (by rw [hab, hs])
      | isFalse hs => isFalse fun h => hs (by injection h)
    | isFalse hab => isFalse fun h => hab (by injection h)

end

instance : DecidableEq Message := decEq

end Message

end ServiceCli.Proto
