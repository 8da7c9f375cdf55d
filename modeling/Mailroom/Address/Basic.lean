import Mailroom.Text.Blank

/-!
# Mail addresses

An `EmailAddress` is an address proper (`local@domain`) with the name shown beside it.
`isAddrSpec` is the class of addresses the library accepts: dot-separated atoms, `@`, and
dot-separated labels of letters, digits and inner hyphens, all in ASCII.
-/

namespace Mailroom

/-- an address proper and the name shown beside it, which may be empty -/
structure EmailAddress where
  addrSpec : Text
  displayName : Text
deriving DecidableEq, Repr

/-- a name and an address as a header gives them, either of them possibly empty -/
structure Mailbox where
  name : Text
  address : Text
deriving DecidableEq, Repr

namespace Address

/-- an ASCII letter or digit -/
def isAlnum (c : Char) : Bool := Text.isAsciiLetter c || (Text.asciiDigit? c).isSome

/-- the marks that an atom may hold beside letters and digits -/
def atomMarks : Text := "!#$%&'*+/=?^_`\x7b|\x7d~-"

/-- a character of an atom -/
def isAtomChar (c : Char) : Bool := isAlnum c || atomMarks.contains c

/-- an atom: one or more of its characters -/
def isAtom (s : Text) : Bool := !s.isEmpty && s.all isAtomChar

/-- a label of a domain: letters, digits and hyphens, no hyphen at either end -/
def isLabel (s : Text) : Bool :=
  s.all (fun c => isAlnum c || c == '-') && s.head?.any isAlnum && s.getLast?.any isAlnum

/-- dot-separated atoms, `@`, and dot-separated labels -/
def isAddrSpec (s : Text) : Bool :=
  match Text.cutAt '@' s with
  | (_, none) => false
  | (l, some d) => (Text.splitOn '.' l).all isAtom && (Text.splitOn '.' d).all isLabel

end Address
end Mailroom
