import Mailroom.Address.Entry
import Mailroom.Filter.Error
import Mailroom.Filter.Tree
import Mailroom.Json.Complaint
import Mailroom.Time.Letter

/-!
# What can stop the program

Every operation that can fail does so with a `Fault`, which names the cause; `Fault.message` is its
wording.  The servers, the disk and the user raise faults of their own, with a text that comes from
outside.
-/

namespace Mailroom

/-- why an operation stopped -/
inductive Fault where
  /-- a filter expression is refused -/
  | filter (e : FilterError)
  /-- an address is refused -/
  | address (e : AddressError)
  /-- a tree has a part without meaning -/
  | shape (e : ShapeError)
  /-- a moment cannot be shown by a clock -/
  | clock (e : ClockError)
  /-- a number is too long to be read -/
  | tooManyDigits (count : Nat)
  /-- a text is no integer; the text as messages show it -/
  | notInteger (shown : Text)
  /-- a text has to be ASCII and is not: the place and the stretch to blame -/
  | notAscii (place : Nat) (stretch : Text)
  /-- octets have to be ASCII and are not: the place and the octet to blame -/
  | notAsciiOctet (place : Nat) (octet : UInt8)
  /-- octets have to be UTF-8 and are not -/
  | notUtf8 (e : Utf8.DecodeError)
  /-- a character set reads nothing -/
  | refusingCharset (name : Text)
  /-- the argument of the limit option is neither a number nor `all` -/
  | badLimit (value : Text)
  /-- the folder is not in the store -/
  | noFolder (folder server : Text)
  /-- a date names a month that does not exist -/
  | unknownMonth (name : Octets)
  /-- a list is too short -/
  | noSuchItem
  /-- a text is too short -/
  | noSuchChar
  /-- a number is beyond all clocks -/
  | hugeNumber {e : Overflow}
  /-- a header value would break its line -/
  | lineBreakInHeader
  /-- a markup document has no content -/
  | emptyDocument
  /-- a markup text declares an encoding although it is decoded already -/
  | declaredEncoding
  /-- a markup document has neither a head nor a body -/
  | noBody
  /-- a markup document consists of a comment -/
  | onlyComment
  /-- an element cannot be taken out, for it stands in none -/
  | detachedElement
  /-- a text of a markup document holds a control character -/
  | controlCharacter
  /-- a file is not there -/
  | noSuchFile (path : Text)
  /-- a directory stands in the place of a file -/
  | isDirectory (path : Text)
  /-- the mail server complained -/
  | imap (text : Text)
  /-- the system complained -/
  | system (text : Text)
  /-- a connection was refused -/
  | refused (text : Text)
  /-- a value was refused by a server's library -/
  | value (text : Text)
  /-- the user interrupted the program -/
  | interrupt (text : Text)
  /-- a web address could not be opened -/
  | url (text : Text)
  /-- the sending server complained -/
  | smtp (text : Text)
  /-- the sending server refused the login -/
  | smtpAuth (code : Int) (text : Octets)
  /-- a whole number is too large to be divided -/
  | tooLarge
  /-- an operand has the wrong type -/
  | wrongType (text : Text)
  /-- an operand does not know an operation -/
  | noOperation (text : Text)
  /-- a key is missing -/
  | missingKey (key : Text)
  /-- a text is no JSON value -/
  | notJson (c : Json.Complaint)
  /-- a JSON text opens one container more than the stack has room for -/
  | tooDeep (c : Json.Container)
  /-- a web address answered with more than was asked for -/
  | tooMuchContent (limit : Int)
  /-- a web address answered with a status that does not mean success -/
  | badStatus (status : Int)
deriving DecidableEq, Repr

/-- the digits a number may have to be read -/
def maxDigits : Nat := 4300

namespace Fault

/-- the place of a stretch in words -/
def stretchPlace (noun plural : Text) (shown : Text) (place count : Nat) : Text :=
  if count ≤ 1 then
    noun ++ " " ++ shown ++ " in position " ++ Text.decimal place
  else
    plural ++ " in position " ++ Text.decimal place ++ "-" ++ Text.decimal (place + count - 1)

/-- a character outside ASCII as the message on encodings shows it -/
def escaped (c : Char) : Text :=
  if c.toNat < 0x100 then "'\\x" ++ Text.hex 2 c.toNat ++ "'"
  else if c.toNat < 0x10000 then "'\\u" ++ Text.hex 4 c.toNat ++ "'"
  else "'\\U" ++ Text.hex 8 c.toNat ++ "'"

/-- the wording of a fault -/
def message : Fault → Text
  | filter e => e.message
  | address e => e.message
  | shape e => e.message
  | clock e => e.message
  | tooManyDigits n =>
    "Exceeds the limit (" ++ Text.decimal maxDigits
      ++ " digits) for integer string conversion: value has " ++ Text.decimal n
      ++ " digits; use sys.set_int_max_str_digits() to increase the limit"
  | notInteger s => "invalid literal for int() with base 10: " ++ s
  | notAscii place stretch =>
    "'ascii' codec can't encode "
      ++ stretchPlace "character" "characters" (stretch.head?.elim [] escaped) place stretch.length
      ++ ": ordinal not in range(128)"
  | notAsciiOctet place b =>
    "'ascii' codec can't decode byte 0x" ++ Text.hex 2 b.toNat ++ " in position "
      ++ Text.decimal place ++ ": ordinal not in range(128)"
  | notUtf8 e =>
    "'utf-8' codec can't decode "
      ++ stretchPlace "byte" "bytes" ("0x" ++ Text.hex 2 (e.stretch.head?.elim 0 UInt8.toNat))
          e.start e.stretch.length
      ++ ": " ++ e.why.message
  | refusingCharset name =>
    "decoding with '" ++ name ++ "' codec failed (UnicodeError: undefined encoding)"
  | badLimit v => "Invalid message limit " ++ v
  | noFolder folder server =>
    "Folder \"" ++ folder ++ "\" not found in store (" ++ server ++ ")"
  | unknownMonth name => Text.quotedOctets name
  | noSuchItem => "list index out of range"
  | noSuchChar => "string index out of range"
  | @hugeNumber e => e.message
  | lineBreakInHeader => "Header values may not contain linefeed or carriage return characters"
  | emptyDocument => "Document is empty"
  | declaredEncoding =>
    "Unicode strings with encoding declaration are not supported. "
      ++ "Please use bytes input or XML fragments without declaration."
  | noBody => "'NoneType' object has no attribute 'iter'"
  | onlyComment => "attribute 'tag' of 'lxml.etree._Comment' objects is not writable"
  | detachedElement => []
  | controlCharacter =>
    "All strings must be XML compatible: Unicode or ASCII, no NULL bytes or control characters"
  | noSuchFile p => "[Errno 2] No such file or directory: " ++ Text.quoted p
  | isDirectory p => "[Errno 21] Is a directory: " ++ Text.quoted p
  | imap t | system t | refused t | value t | interrupt t | smtp t | wrongType t | noOperation t => t
  | url t => "<urlopen error " ++ t ++ ">"
  | smtpAuth code t => "(" ++ Text.decimalInt code ++ ", " ++ Text.quotedOctets t ++ ")"
  | missingKey k => Text.quoted k
  | notJson c => c.message
  | tooDeep c =>
    "maximum recursion depth exceeded while decoding a JSON " ++ c.name ++ " from a unicode string"
  | tooMuchContent n => "Content exceeds max size of " ++ Text.decimalInt n ++ " bytes"
  | badStatus n => "HTTP Error " ++ Text.decimalInt n ++ ": unexpected status"
  | tooLarge => "integer division result too large for a float"

/-- a complaint of the mail server -/
def isImap : Fault → Bool
  | imap _ => true
  | _ => false

/-- a complaint of the system or of a connection -/
def isSystem : Fault → Bool
  | system _ | refused _ | url _ | smtp _ | smtpAuth _ _ | noSuchFile _ | isDirectory _ => true
  | _ => false

end Fault

/-- the value, or the fault made of the error -/
def orFault {ε α : Type} (wrap : ε → Fault) : Except ε α → Except Fault α
  | .ok a => .ok a
  | .error e => .error (wrap e)

end Mailroom
