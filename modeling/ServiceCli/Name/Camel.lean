/-!
# Names of services and methods in Go

`camel` turns the name of a service or a method into a Go name: a leading underscore becomes
`X`, an underscore before a small letter disappears and the letter becomes a capital, as do the
first letter and a small letter after a digit. Only ASCII letters change.
`isIdentifier` tells whether a text can be a name in Go.
-/

namespace ServiceCli

/-- The characters of a Go name. The flag tells that the next small letter becomes a capital. -/
def camelChars : Bool → List Char → List Char
  | _, [] => []
  | _, '_' :: d :: cs =>
    if d.isLower then camelChars true (d :: cs) else '_' :: camelChars false (d :: cs)
  | up, c :: cs =>
    if c.isDigit then c :: camelChars true cs
    else (if up then c.toUpper else c) :: camelChars false cs

/-- The Go name of a service or a method. -/
def camel (name : String) : String :=
  match name.toList with
  | '_' :: cs => String.ofList ('X' :: camelChars true cs)
  | cs => String.ofList (camelChars true cs)

/-- A letter of ASCII, or an underscore. -/
def isIdentifierStart (c : Char) : Bool :=
  c.isAlpha || c == '_'

/-- A letter or digit of ASCII, or an underscore. -/
def isIdentifierPart (c : Char) : Bool :=
  c.isAlphanum || c == '_'

/-- Whether `s` is a name in Go: a letter or an underscore, then letters, digits and
underscores. -/
def isIdentifier (s : String) : Bool :=
  match s.toList with
  | [] => false
  | c :: cs => isIdentifierStart c && cs.all isIdentifierPart

end ServiceCli
