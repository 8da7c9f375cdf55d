import Mailroom.Filter.Evaluate
import Mailroom.View.Format

/-!
# The heading of a message

The lines above a message in the listing, and the name under which its parts are saved.

* `heading`   the lines;
* `mailId`    the name: a number, the address of the sender and the words of the subject, shortened.
-/

namespace Mailroom.View

/-- the mailboxes of all fields of a name that have an address -/
def shownAddresses (m : Message) (name : Text) : Except Fault (List Mailbox) := do
  return (← m.addresses name).filter fun b => !b.address.isEmpty

/-- a line with its name -/
def line (name value : Text) : Text := label name ++ ": " ++ value

/-- the line of some mailboxes, nothing for no mailboxes -/
def addressLine (name : Text) (ms : List Mailbox) : Text := line name (addresses ms)

/-- the lines above a message; `own` stands in for a missing recipient -/
def heading (zone : Zone) (f : Fetched) (position : Int) (own : Option Mailbox) :
    Except Fault (List Text) := do
  let m := f.message
  let sent ← f.sent zone
  let size ← size f.size
  let subject := (← m.header.field? "Subject").getD []
  let date := (sent <|> f.received).elim [] Stamp.letter
  let senders ← shownAddresses m "From"
  let receivers ← shownAddresses m "To"
  let receivers := if receivers.isEmpty then own.toList else receivers
  let cc ← shownAddresses m "Cc"
  let replies ← shownAddresses m "Reply-To"
  let replies := if replies.isEmpty then senders else replies
  return [rule, line "Email No" (Text.decimalInt position), line "Size" size,
      line "Subject" subject, line "Date" date, addressLine "From" senders,
      addressLine "To" receivers]
    ++ (if cc.isEmpty then [] else [addressLine "Cc" cc])
    ++ [addressLine "Reply To" replies, rule]

/-! ## names -/

/-- runs of underscores as one -/
def squeeze : Text → Text
  | '_' :: '_' :: r => squeeze ('_' :: r)
  | c :: r => c :: squeeze r
  | [] => []

/-- runs of blanks as an underscore -/
def underscoreBlanks : Text → Text
  | [] => []
  | c :: r =>
    if Text.isBlank c then
      if r.head?.any Text.isBlank then underscoreBlanks r else '_' :: underscoreBlanks r
    else c :: underscoreBlanks r

/-- the words of a subject in lower case with underscores between them; only ASCII letters, digits,
hyphens and underscores are kept -/
def slug (subject : Text) : Text :=
  squeeze <| (underscoreBlanks (Text.lower (Text.trim subject))).filter fun c =>
    Text.isAsciiLetter c || (Text.asciiDigit? c).isSome || c == '-' || c == '_' || c == ' '

/-- the characters of a text up to a limit, which counts from the end if it is negative -/
def shorten (limit : Int) (s : Text) : Text :=
  s.take (if limit < 0 then (s.length + limit).toNat else limit.toNat)

/-- the name under which the parts of a message are saved, with a number of its own in front -/
def mailId (serial : Text) (m : Message) (limit : Int) : Except Fault Text := do
  let sender :=
    match ← shownAddresses m "From" with
    | b :: _ => Text.replaceChar '@' "_at_" b.address
    | [] => "unknown"
  let subject := (← m.header.field? "Subject").getD []
  return shorten limit (serial ++ "_" ++ sender ++ "_" ++ slug subject)

end Mailroom.View
