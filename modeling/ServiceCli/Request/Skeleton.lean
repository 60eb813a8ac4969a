/-!
# Request skeletons

A flag is bound to an address inside the request, so every message on the way to a scalar is
allocated before the flags are. A `Skeleton` is the Go expression that does so: a composite
literal with the fields that need a value, an empty list of messages, or nothing.
-/

namespace ServiceCli.Request

/-- A Go expression that allocates a request or a part of it. -/
inductive Skeleton where
  /-- A pointer to a new message, with its fields in order. -/
  | construct (typeName : String) (fields : List (String × Skeleton))
  | emptyList (typeName : String)
  | nothing
  deriving Repr, Inhabited

namespace Skeleton

/-- Whether there is nothing to allocate. -/
def isNothing : Skeleton → Bool
  | nothing => true
  | _ => false

/-- The Go type that is allocated. -/
def typeName? : Skeleton → Option String
  | construct t _ => some t
  | emptyList t => some t
  | nothing => none

/-- The value of a field. -/
def field? (name : String) : Skeleton → Option Skeleton
  | construct _ fs => fs.lookup name
  | _ => none

/-- Sets a field. A field that is already there keeps its place and takes the new value. -/
def setField (name : String) (value : Skeleton) :
    List (String × Skeleton) → List (String × Skeleton)
  | [] => [(name, value)]
  | (n, v) :: fs => if n = name then (n, value) :: fs else (n, v) :: setField name value fs

/-- A message without fields. -/
def bare (typeName : String) : Skeleton :=
  construct typeName []

/-- A field that is not there yet comes last. -/
theorem setField_of_notMem {name : String} {value : Skeleton} {fs : List (String × Skeleton)}
    (h : name ∉ fs.map Prod.fst) : setField name value fs = fs ++ [(name, value)] := by
  induction fs with
  | nil => rfl
  | cons f fs ih =>
    obtain ⟨n, v⟩ := f
    simp only [List.map_cons, List.mem_cons, not_or] at h
    simp [setField, Ne.symm h.1, ih h.2]

theorem lookup_setField (name : String) (value : Skeleton) (fs : List (String × Skeleton)) :
    (setField name value fs).lookup name = some value := by
  induction fs with
  | nil => simp [setField]
  | cons f fs ih =>
    obtain ⟨n, v⟩ := f
    by_cases h : n = name
    · simp [setField, h]
    · have hn : (name == n) = false := by simpa using Ne.symm h
      simp [setField, h, List.lookup_cons, hn, ih]

mutual

/-- The skeleton on one line of Go. -/
def line : Skeleton → String
  | construct t fs => "&" ++ t ++ "\x7b" ++ fieldsLine fs ++ "\x7d"
  | emptyList t => "[]*" ++ t ++ "\x7b\x7d"
  | nothing => "nil"

/-- The fields of a message on one line, with commas between them. -/
def fieldsLine : List (String × Skeleton) → String
  | [] => ""
  | (name, value) :: fs => name ++ ": " ++ value.line ++ moreFields fs

/-- The fields after the first one, each with the comma before it. -/
def moreFields : List (String × Skeleton) → String
  | [] => ""
  | (name, value) :: fs => ", " ++ name ++ ": " ++ value.line ++ moreFields fs

end

end Skeleton

end ServiceCli.Request
