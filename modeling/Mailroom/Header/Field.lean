import Mailroom.Fault
import Mailroom.Header.AddressList
import Mailroom.Header.Parameter
import Mailroom.Time.Letter

/-!
# Fields of a header

The name of a field decides what its value is: a list of addresses, a date, a media type, or free
text.  A `Field` is the tree of a value together with its shown text, in which dates and addresses
have one form and undecodable octets are read as UTF-8.

* `Kind.ofName`    what the value of a field of a name is;
* `Field.read`     the field of a value.
-/

namespace Mailroom.Header

/-- what the value of a field is -/
inductive Kind where
  | freeText
  | date
  | addresses
  | version
  | mediaType
  | disposition
  | transferEncoding
  | messageId
deriving DecidableEq, Repr

/-- what the value of a field of a name is -/
def Kind.ofName (name : Text) : Kind :=
  let n := Text.asciiLower name
  let isOneOf (names : List String) : Bool := names.any fun m => m.toList == n
  if isOneOf ["date", "orig-date", "resent-date"] then date
  else if isOneOf ["to", "cc", "bcc", "from", "reply-to", "sender", "resent-to", "resent-cc",
      "resent-bcc", "resent-from", "resent-sender"] then addresses
  else if isOneOf ["mime-version"] then version
  else if isOneOf ["content-type"] then mediaType
  else if isOneOf ["content-disposition"] then disposition
  else if isOneOf ["content-transfer-encoding"] then transferEncoding
  else if isOneOf ["message-id"] then messageId
  else freeText

namespace Scan

/-! ## structured values -/

/-- what stands between a structured value and its parameters, and the parameters -/
def parametersBehind : Scan (List Token) := do
  let between ← junk (· == ';')
  if ← atEnd then return between
  skip
  return between ++ [.markChar ';', ← parameters]

/-- a word of a structured value, or nothing -/
def word? : Scan (List Token) := orElse (do return [← paddedRun endsWord]) (pure [])

/-- a media type and its parameters -/
def mediaType : Scan Token := do
  let main ← word?
  let parts ← if !main.isEmpty && (← sees (· == '/')) then do
      skip
      pure (main ++ .markChar '/' :: (← word?))
    else pure main
  return .form .mediaType (parts ++ (← parametersBehind))

/-- a disposition and its parameters -/
def disposition : Scan Token := do
  let main ← word?
  return .form .disposition (main ++ (← parametersBehind))

/-- a transfer encoding -/
def transferEncoding : Scan Token := do
  let main ← word?
  return .form .transferEncoding (main ++ (← junk fun _ => false))

/-- what is left as one run -/
def remainder : Scan (List Token) := do
  let s ← get
  set ([] : Text)
  return if s.isEmpty then [] else [.leaf .plain s]

/-- the characters before one of `ends`, possibly none -/
def runOrNothing (ends : Char → Bool) : Scan Token := do
  let s ← get
  set (s.dropWhile fun c => !ends c)
  return .leaf .plain (s.takeWhile fun c => !ends c)

/-- a version of two numbers -/
def version : Scan Token := do
  if ← atEnd then return .form .version []
  let front ← filler?
  let major ← runOrNothing fun c => c == '.' || opensFiller c
  let front := front ++ major :: (← filler?)
  if !(← sees (· == '.')) then return .form .version (front ++ (← remainder))
  skip
  let front := front ++ .leaf .dot ['.'] :: (← filler?)
  if ← atEnd then return .form .version front
  let minor ← runOrNothing opensFiller
  let front := front ++ minor :: (← filler?)
  return .form .version (front ++ (← remainder))

end Scan

/-! ## fields -/

/-- the value of a field as a tree and as it is shown -/
structure Field where
  tree : Token
  shown : Text
deriving Repr

/-- why a field cannot be read -/
def Stop.toFault : Stop → Fault
  | .pastEnd => .noSuchChar
  | .mismatch | .noPart => .noSuchItem

namespace Field

/-- the field of a tree that is shown as it is written -/
def ofToken (t : Token) : Field := ⟨t, Text.settle t.text⟩

/-- the field of a structured value -/
def ofScan (scan : Scan Token) (value : Text) : Except Fault Field :=
  match StateT.run scan value with
  | .ok (t, _) => .ok (ofToken t)
  | .error e => .error e.toFault

/-- the field of a date; a text that is no date is shown as it is -/
def ofDate (value : Text) : Except Fault Field :=
  if value.isEmpty then .ok ⟨.form .sequence [], []⟩
  else
    match Letter.read value with
    | .ok m => .ok ⟨readUnstructured m.letter, m.letter⟩
    | .error .malformed => .ok ⟨.form .sequence [], Text.settle value⟩
    | .error (.tooLarge e) => .error (@Fault.hugeNumber e)

/-- the field of a list of addresses -/
def ofAddresses (value : Text) : Except Fault Field := do
  let t ← (readAddressList value).mapError Stop.toFault
  let es ← t.entries.mapError Stop.toFault
  if es.any fun e => e.members.any Member.hasLineBreak then
    throw (.value "invalid arguments; address parts cannot contain CR or LF")
  return ⟨t, Text.settle ([',', ' '].intercalate (es.map Entry.text))⟩

/-- the field of a value -/
def read (kind : Kind) (value : Text) : Except Fault Field :=
  match kind with
  | .freeText => .ok (ofToken (readUnstructured value))
  | .date => ofDate value
  | .addresses => ofAddresses value
  | .version => ofScan Scan.version value
  | .mediaType => if value.isEmpty then .ok (ofToken (.form .mediaType [])) else ofScan Scan.mediaType value
  | .disposition => ofScan Scan.disposition value
  | .transferEncoding => ofScan Scan.transferEncoding value
  | .messageId => .ok (ofToken (.form .messageId [.leaf .plain value]))

end Field
end Mailroom.Header
