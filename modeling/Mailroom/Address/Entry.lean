import Mailroom.Address.Lenient
import Mailroom.Codec.Utf8
import Mailroom.Codec.Base64
import Mailroom.Codec.QuotedPrintable

/-!
# Addresses as they are typed

* `parse`        exactly one address, strictly: the lenient reader must find one mailbox and its
                 address must be in the accepted class;
* `parseList`    a comma-separated list, every entry of it parsed;
* `format`       an address as a header shows it.

A list is cut at its commas before the entries are read, so a comma inside a quoted name separates
entries as well.
-/

namespace Mailroom

/-- why addresses are refused -/
inductive AddressError where
  | notSingle (value : Text)
  | notValid (value : Text)
  | badEntry (what entries : Text)
  | noRecipient
  | badSender (value : Text)
deriving DecidableEq, Repr

namespace AddressError

/-- the text that was refused -/
def address : AddressError → Text
  | notSingle v | notValid v | badSender v => v
  | badEntry _ es => es
  | noRecipient => []

/-- what is wrong with it -/
def problem : AddressError → Text
  | notSingle _ => "Expected a single address"
  | notValid _ => "Invalid address"
  | badEntry what _ => "Invalid " ++ what ++ " address detected in " ++ what ++ " list"
  | noRecipient => "\x60To\x60 address field cannot be empty"
  | badSender _ => "Invalid sender address"

/-- the wording: the problem, and the refused text if there is any -/
def message (e : AddressError) : Text :=
  if e.address.isEmpty then e.problem else e.problem ++ ": " ++ e.address

end AddressError

namespace Address

/-! ## reading -/

/-- exactly one valid address -/
def parse (value : Text) : Except AddressError EmailAddress :=
  match ofValues [value] with
  | [m] =>
    if isAddrSpec m.address then .ok ⟨m.address, Text.trim m.name⟩ else .error (.notValid value)
  | _ => .error (.notSingle value)

/-- the non-empty pieces of a text between commas -/
def entries (value : Text) : List Text := (Text.splitCommas value).filter fun e => !e.isEmpty

/-- a list of valid addresses; `what` names the list in the message -/
def parseList (value what : Text) : Except AddressError (List EmailAddress) :=
  match (entries value).mapM parse with
  | .ok as => .ok as
  | .error _ => .error (.badEntry what ([',', ' '].intercalate (entries value)))

/-! ## writing -/

/-- octets as a word of a header: in base 64 where that is shorter than the quoted form -/
def encodedWord (b : Octets) : Text :=
  let q := QuotedPrintable.encodeWord QuotedPrintable.wordMarks b
  if Base64.encodedLength b.length < q.length then
    "=?utf-8?b?" ++ Text.ofOctets (Base64.encode b) ++ "?="
  else "=?utf-8?q?" ++ Text.ofOctets q ++ "?="

/-- characters that put a name into quotes -/
def nameSpecials : Text := "][\\()<>@,:;\"."

/-- a name as it stands in front of an address -/
def formatName (name : Text) : Text :=
  if name.all Text.isAscii then
    let escaped := name.flatMap fun c => if c = '"' ∨ c = '\\' then ['\\', c] else [c]
    if name.any nameSpecials.contains then '"' :: escaped ++ ['"'] else escaped
  else encodedWord (Utf8.encode name)

/-- an address with its name as a header shows it; the first character outside ASCII of an address
proper, with its place, stands in the way -/
def format (a : EmailAddress) : Except (Nat × Text) Text :=
  match a.addrSpec.findIdx? fun c => !Text.isAscii c with
  | some i => .error (i, (a.addrSpec.drop i).takeWhile fun c => !Text.isAscii c)
  | none =>
    if a.displayName.isEmpty then .ok a.addrSpec
    else .ok (formatName a.displayName ++ " <" ++ a.addrSpec ++ ">")

end Address
end Mailroom
