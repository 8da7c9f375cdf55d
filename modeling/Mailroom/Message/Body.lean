import Mailroom.Codec.Base64
import Mailroom.Codec.QuotedPrintable
import Mailroom.Codec.Uuencode
import Mailroom.Message.Basic

/-!
# Bodies as octets and as text

* `Message.content?`      the octets of a body, its transfer encoding undone;
* `Message.rawText`       the body as characters, its transfer encoding left alone;
* `Message.decodedText?`  the text of a body: in the declared character set, else in UTF-8, else in
  ISO 8859-1, which reads everything;
* `Message.texts`         the texts of all parts that are text.
-/

namespace Mailroom.Message

/-- the octets of a body under a transfer encoding; an encoding that is not known changes nothing -/
def undoTransfer (encoding : Text) (b : Octets) : Octets :=
  let isOneOf (names : List String) : Bool := names.any fun m => m.toList == encoding
  if isOneOf ["quoted-printable"] then QuotedPrintable.decode b
  else if isOneOf ["base64"] then Base64.decodeLax (b.filter fun c => c ≠ 10 ∧ c ≠ 13)
  else if isOneOf ["x-uuencode", "uuencode", "uue", "x-uue"] then (Uuencode.decode? b).getD b
  else b

/-- the octets of a body, none for a message made of parts -/
def content? : Message → Except Fault (Option Octets)
  | container _ _ => .ok none
  | leaf h b => do
    let e := ((← h.field? "Content-Transfer-Encoding").getD [])
    return some (undoTransfer (Text.lower e) b)

/-- the body as characters: octets above 127 are read with the declared character set, or with none -/
def rawText (m : Message) : Except Fault Text :=
  match m with
  | container _ _ => .ok []
  | leaf h b =>
    if b.all (· < 128) then .ok (Text.ofOctets b)
    else do
      let name := ((← h.parameter? "Content-Type" "charset").getD "ascii")
      if !Charset.isName name then throw (.value "embedded null character")
      match Charset.named? name with
      | some .undefined => throw (.refusingCharset name)
      | cs => return (cs.getD .ascii).repairing b

/-- octets in the first of some character sets that reads them; a set that refuses ends the search, and
so does what cannot be a name -/
def firstReading? : List Text → Octets → Option Text
  | [], b => some (Utf8.repair b)
  | name :: names, b =>
    if !Charset.isName name then none
    else if b.isEmpty then some []
    else
      match Charset.named? name with
      | none => firstReading? names b
      | some cs =>
        match cs.decode b with
        | .text t => some t
        | .undecodable => firstReading? names b
        | .refused => none

/-- the text of a body, none for a message made of parts and for one that cannot be read -/
def decodedText? (m : Message) : Option Text :=
  match m.content? with
  | .ok (some b) =>
    match m.header.charset? with
    | .ok c =>
      let declared := match c with
        | some (d :: n) => d :: n
        | _ => "utf-8".toList
      firstReading? [declared, "utf-8", "iso-8859-1"] b
    | .error _ => none
  | _ => none

/-- the text of a part that is text, none if it has none -/
def textOf (m : Message) : Except Fault (List Text) := do
  if MessageHeader.mainType (← m.contentType) = "text".toList ∧ !m.isContainer then
    match m.decodedText? with
    | some (c :: r) => return [c :: r]
    | _ => return []
  else return []

/-- the texts of all parts that are text, outermost first -/
def texts (m : Message) : Except Fault (List Text) := do
  return (← m.walk.mapM textOf).flatten

end Mailroom.Message
