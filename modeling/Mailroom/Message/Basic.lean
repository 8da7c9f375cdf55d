import Mailroom.Header.Field
import Mailroom.Text.Case

/-!
# Messages

A message, or a part of one, is a header and a body; the body is octets, or parts that are messages
themselves.

* `Message.header`       the fields in their order;
* `Header.field?`        the first field of a name;
* `Header.contentType`   the media type that the header declares, in lower case;
* `Header.parameter?`    a parameter of a field;
* `Message.walk`         the message and all its parts, outermost first.
-/

namespace Mailroom

/-- a field of a header as it was sent, on one line -/
structure RawField where
  name : Text
  value : Text
deriving DecidableEq, Repr

/-- the header of a message -/
structure MessageHeader where
  fields : List RawField
  /-- whether the message stands in a digest, where parts are messages unless they say otherwise -/
  inDigest : Bool
deriving DecidableEq, Repr

/-- a message or a part of one -/
inductive Message where
  | leaf (header : MessageHeader) (body : Octets)
  | container (header : MessageHeader) (parts : List Message)
deriving Repr

namespace MessageHeader

/-! ## fields -/

/-- a raw field read -/
def read (f : RawField) : Except Fault Header.Field :=
  Header.Field.read (Header.Kind.ofName f.name) f.value

/-- whether a raw field has a name; upper and lower case are the same -/
def hasName (name : Text) (f : RawField) : Bool := Text.asciiLower f.name == Text.asciiLower name

/-- the shown text of the first field of a name -/
def field? (h : MessageHeader) (name : Text) : Except Fault (Option Text) :=
  match h.fields.find? (hasName name) with
  | some f => do return some (← read f).shown
  | none => .ok none

/-- the shown texts of all fields of a name -/
def allFields (h : MessageHeader) (name : Text) : Except Fault (List Text) :=
  (h.fields.filter (hasName name)).mapM fun f => do return (← read f).shown

/-! ## media types -/

/-- the part of a shown value before its parameters -/
def mainPart (s : Text) : Text := Text.trim (Text.cutAt ';' s).1

/-- the media type; a malformed one counts as plain text -/
def contentType (h : MessageHeader) : Except Fault Text := do
  match ← h.field? "Content-Type" with
  | none => return if h.inDigest then "message/rfc822" else "text/plain"
  | some v =>
    let t := Text.lower (mainPart v)
    return if t.count '/' = 1 then t else "text/plain"

/-- the first half of a media type -/
def mainType (type : Text) : Text := (Text.cutAt '/' type).1

/-- the second half of a media type -/
def subType (type : Text) : Text := (Text.cutAt '/' type).2.getD []

/-- the disposition in lower case -/
def disposition? (h : MessageHeader) : Except Fault (Option Text) := do
  return (← h.field? "Content-Disposition").map fun v => Text.lower (mainPart v)

/-! ## parameters -/

/-- the pieces between the semicolons outside of quotes; a quote behind a backslash is no quote -/
def splitParameters (inQuotes escaped : Bool) : Text → List Text
  | [] => [[]]
  | c :: r =>
    if c = ';' ∧ !inQuotes then [] :: splitParameters false false r
    else
      let quotes := if c = '"' ∧ !escaped then !inQuotes else inQuotes
      match splitParameters quotes (c == '\\') r with
      | [] => [[c]]
      | p :: ps => (c :: p) :: ps

/-- name and value of a parameter, without the blanks around them -/
def nameAndValue (s : Text) : Text × Text :=
  match Text.cutAt '=' s with
  | (n, some v) => (Text.lower (Text.trim n), Text.trim v)
  | (n, none) => (Text.trim n, [])

/-- a value without the quotes or angle brackets around it -/
def unquote (s : Text) : Text :=
  if s.length < 2 then s
  else if s.head? = some '"' ∧ s.getLast? = some '"' then
    Text.replaceAll "\\\"" "\"" (Text.replaceAll "\\\\" "\\" (s.drop 1).dropLast)
  else if s.head? = some '<' ∧ s.getLast? = some '>' then (s.drop 1).dropLast
  else s

/-- the parameters of a shown value; its main part counts as the first one -/
def parametersOf (s : Text) : List (Text × Text) :=
  match (splitParameters false false s).map nameAndValue with
  | [] => []
  | p :: ps =>
    (p.1, unquote p.2) :: ps.map fun q => (q.1, unquote (Header.quote (unquote q.2)))

/-- a parameter of the first field of a name -/
def parameter? (h : MessageHeader) (field name : Text) : Except Fault (Option Text) := do
  match ← h.field? field with
  | none => return none
  | some v => return ((parametersOf v).find? fun p => Text.lower p.1 == name).map (·.2)

/-- the file name that the header suggests -/
def filename? (h : MessageHeader) : Except Fault (Option Text) := do
  match ← h.parameter? "Content-Disposition" "filename" with
  | some n => return some (Text.trim (unquote n))
  | none => return (← h.parameter? "Content-Type" "name").map fun n => Text.trim (unquote n)

/-- the boundary between the parts -/
def boundary? (h : MessageHeader) : Except Fault (Option Text) := do
  return (← h.parameter? "Content-Type" "boundary").map fun b => Text.trimEnd (unquote b)

/-- the character set in lower case, if it has an ASCII name -/
def charset? (h : MessageHeader) : Except Fault (Option Text) := do
  match ← h.parameter? "Content-Type" "charset" with
  | some c => return if c.all Text.isAscii then some (Text.asciiLower c) else none
  | none => return none

end MessageHeader

namespace Message

/-- the header -/
def header : Message → MessageHeader
  | leaf h _ => h
  | container h _ => h

/-- whether the body is made of parts -/
def isContainer : Message → Bool
  | leaf _ _ => false
  | container _ _ => true

/-- the parts, none for a message that is not made of parts -/
def parts : Message → List Message
  | leaf _ _ => []
  | container _ ps => ps

/-- the media type -/
def contentType (m : Message) : Except Fault Text := m.header.contentType

mutual

/-- the message and all its parts, outermost first -/
def walk : Message → List Message
  | leaf h b => [leaf h b]
  | container h ps => container h ps :: walkAll ps

/-- messages and all their parts, one after the other -/
def walkAll : List Message → List Message
  | [] => []
  | m :: ms => walk m ++ walkAll ms

end

end Message
end Mailroom
