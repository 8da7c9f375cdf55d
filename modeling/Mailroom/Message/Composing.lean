import Mailroom.Codec.Base64
import Mailroom.Codec.Percent
import Mailroom.Codec.QuotedPrintable
import Mailroom.Files.Disk
import Mailroom.Files.MediaType
import Mailroom.Message.Reading

/-!
# Composing a message

A message that is sent has a text and attachments, each a part of its own.  The text is sent as it is if
its lines are short, else in the shorter of two encodings; attachments are sent in base 64.

* `Draft`              what a message is made of;
* `Message.compose`    the message, or what is wrong with a value or a file.
-/

namespace Mailroom

/-- what a message is made of -/
structure Draft where
  subject : Text
  sender : Text
  recipients : List Text
  copies : List Text
  text : Text
  /-- the paths of the attachments -/
  attachments : List Text
deriving Repr

namespace Message

/-! ## fields -/

/-- a character that ends a line -/
def isLineBreak (c : Char) : Bool :=
  c == '\n' || c == '\x0b' || c == '\x0c' || c == '\r' || c == '\x1c' || c == '\x1d' || c == '\x1e'
    || c == '\u0085' || c == '\u2028' || c == '\u2029'

/-- a value without the line break at its end -/
def withoutLastBreak (s : Text) : Text :=
  match s.reverse with
  | '\n' :: '\r' :: r => r.reverse
  | c :: r => if isLineBreak c then r.reverse else s
  | [] => s

/-- a field, whose value must be one line and must be readable -/
def fieldOfValue (name value : Text) : Except Fault RawField := do
  if (withoutLastBreak value).any isLineBreak then throw .lineBreakInHeader
  let f : RawField := ⟨name, value⟩
  let _ ← MessageHeader.read f
  return f

/-- fields, the first that cannot be made being the fault -/
def fieldsOfValues (fs : List (Text × Text)) : Except Fault (List RawField) :=
  fs.mapM fun f => fieldOfValue f.1 f.2

/-! ## the text -/

/-- the longest line that is sent as it is -/
def plainLimit : Nat := 78

/-- lines, each ended by a line feed -/
def joinLines (ls : List Octets) : Octets := if ls.isEmpty then [10] else ls.flatMap fun l => l ++ [10]

/-- the transfer encoding of a text and its octets in it -/
def encodeText (s : Text) : Text × Octets :=
  let ls := (Lines.ofOctets (Utf8.encode s)).map Lines.chop
  let body := joinLines ls
  if ls.all fun l => l.length ≤ plainLimit then
    (if body.all (· < 128) then "7bit" else "8bit", body)
  else
    let first := ls.take 10
    let quoted := (QuotedPrintable.encodeBody first).length
    if Base64.encodedLength (joinLines first).length + 1 < quoted then
      ("base64", Base64.encodeLines 19 body)
    else ("quoted-printable", QuotedPrintable.encodeBody ls)

/-- the part that holds the text -/
def textPart (s : Text) : Except Fault Message := do
  let (encoding, body) := encodeText s
  let fields ← fieldsOfValues [("Content-Type", "text/plain; charset=\"utf-8\""),
    ("Content-Transfer-Encoding", encoding)]
  return leaf ⟨fields, false⟩ body

/-! ## attachments -/

/-- the parameter that carries a file name -/
def filenameParameter (name : Text) : Text :=
  if name.all Text.isAscii then "filename=" ++ Header.quote name
  else "filename*=utf-8''" ++ Percent.encode name

/-- the part of an attachment; pictures are shown inside the message -/
def attachmentPart (path : Text) (content : Octets) : Except Fault Message := do
  let picture := Path.isImage path
  let disposition : Text := if picture then "inline" else "attachment"
  let front : List (Text × Text) := [("Content-Type", MediaType.ofPath path),
    ("Content-Transfer-Encoding", "base64"),
    ("Content-Disposition", disposition ++ "; " ++ filenameParameter (Path.baseName path))]
  let label : List (Text × Text) := if picture then [("Content-ID", "<image>")] else []
  let back : List (Text × Text) := [("MIME-Version", "1.0")]
  let fields ← fieldsOfValues (front ++ label ++ back)
  return leaf ⟨fields, false⟩ (Base64.encodeLines 19 content)

/-! ## the message -/

/-- the fields of a message -/
def headFields (d : Draft) (id date : Text) : Except Fault (List RawField) := do
  let front : List (Text × Text) := [("Subject", d.subject), ("From", d.sender),
    ("To", [',', ' '].intercalate d.recipients)]
  let copies : List (Text × Text) :=
    if d.copies.isEmpty then [] else [("Cc", [',', ' '].intercalate d.copies)]
  let back : List (Text × Text) := [("Message-ID", id), ("Date", date), ("MIME-Version", "1.0"),
    ("Content-Type", "multipart/mixed")]
  fieldsOfValues (front ++ copies ++ back)

/-- a message with a name and a date; files are read from a disk -/
def compose (disk : Disk) (id date : Text) (d : Draft) : Except Fault Message := do
  let fields ← headFields d id date
  let text ← textPart d.text
  let parts ← d.attachments.mapM fun path => do attachmentPart path (← disk.read path)
  return container ⟨fields, false⟩ (text :: parts)

end Message
end Mailroom
