import Mailroom.Address.Entry
import Mailroom.Client.Config
import Mailroom.Message.Composing
import Mailroom.Message.Writing
import Mailroom.Smtp.Send

/-!
# Sending a mail

`sendWith` checks the sender, all recipients and all attachments before anything is sent, composes the
message, hands it to whatever takes it away, and tells whom it was sent to; `send` hands it to the sending
server.
-/

namespace Mailroom.Client

open Program

/-- what the user wants to send; addresses and paths are lists with commas -/
structure Order where
  recipients : Text
  subject : Text
  /-- the text, or the path of a file that holds it; nothing for a value that is neither -/
  text : Option Text
  copies : Text
  hiddenCopies : Text
  attachments : Text
deriving Repr

/-- who receives a mail, all addresses valid -/
structure Addressees where
  sender : EmailAddress
  recipients : List EmailAddress
  copies : List EmailAddress
  hiddenCopies : List EmailAddress
deriving DecidableEq, Repr

/-- the sender that the settings give -/
def senderOf (config : Config) (user : Text) : Except AddressError EmailAddress :=
  let value := user ++ "@" ++ config.mailDomain
  match Address.parse value with
  | .ok a => .ok ⟨a.addrSpec, config.mailName⟩
  | .error _ => .error (.badSender value)

/-- whom an order is for; there has to be a recipient -/
def addressees (config : Config) (user : Text) (o : Order) : Except AddressError Addressees := do
  let sender ← senderOf config user
  let recipients ← Address.parseList o.recipients "recipient"
  if recipients.isEmpty then throw .noRecipient
  let copies ← Address.parseList o.copies "CC"
  let hiddenCopies ← Address.parseList o.hiddenCopies "BCC"
  return ⟨sender, recipients, copies, hiddenCopies⟩

/-- all addresses that a mail goes to -/
def Addressees.envelope (a : Addressees) : List Text :=
  (a.recipients ++ a.copies ++ a.hiddenCopies).map EmailAddress.addrSpec

/-- the paths of files that can be attached, or why the first of the others cannot -/
def checkAttachments (disk : Disk) (allowed : List Text) : List Text → Except Attachment.Refusal (List Text)
  | [] => .ok []
  | p :: ps =>
    match Attachment.check disk p allowed with
    | (_, some r) => .error r
    | (path, none) => (checkAttachments disk allowed ps).map (path :: ·)

/-- addresses as a header shows them -/
def shownAddresses (as : List EmailAddress) : Except Fault (List Text) :=
  as.mapM fun a => orFault (fun p => .notAscii p.1 p.2) (Address.format a)

/-- the text of a mail: that of the file which a value names, or the value itself -/
def textOf (disk : Disk) : Option Text → Except Fault Text
  | some value => .ok ((disk.textOrSelf? value).getD [])
  | none =>
    .error (.wrongType "stat: path should be string, bytes, os.PathLike or integer, not list")

/-- what the message of an order is made of -/
def draftOf (disk : Disk) (a : Addressees) (paths : List Text) (o : Order) : Except Fault Draft := do
  let sender ← shownAddresses [a.sender]
  let recipients ← shownAddresses a.recipients
  let text ← textOf disk o.text
  let copies ← shownAddresses a.copies
  return ⟨o.subject, sender.flatten, recipients, copies, text, paths⟩

/-- a mail ready to be taken away -/
structure Letter where
  options : Smtp.Options
  sender : Text
  envelope : List Text
  message : Message
  /-- the octets of the message; what is wrong with them shows only when they are needed -/
  data : Except Fault Argument
  time : Stamp

/-- the mail of an order whose addresses and attachments are valid -/
def letterOf (config : Config) (user password : Text) (s : Session) (a : Addressees)
    (paths : List Text) (o : Order) : Except Fault Letter := do
  let draft ← draftOf s.disk a paths o
  let time ← orFault .clock (s.zone.ofInstant s.now)
  let m ← Message.compose s.disk s.messageId time.letter draft
  let m := m.withBoundary s.boundary
  return {
    options := ⟨some config.smtpServer, config.smtpPort, some user, some password⟩
    sender := a.sender.addrSpec
    envelope := a.envelope
    message := m
    data := (m.write s.boundary).map .octets
    time }

/-- what is printed of a mail that was sent -/
def report (recipients : List EmailAddress) (time : Stamp) : Text :=
  "==> Mail sent to "
    ++ [' '].intercalate (recipients.map fun a => "<" ++ a.addrSpec ++ ">") ++ " at " ++ time.iso

/-- a mail handed to what takes it away; nothing is sent if an attachment is refused.  The result is the
message as it was sent -/
def sendWith (deliver : Letter → Program Unit) (config : Config) (user password : Text) (o : Order) :
    Program (Option Message) := do
  let s ← session
  let receivers ← settle (orFault .address (addressees config user o))
  match checkAttachments s.disk config.allowedExtensions (Path.paths o.attachments) with
  | .error r =>
    printLine ("==> " ++ r.message)
    return none
  | .ok paths =>
    let letter ← settle (letterOf config user password s receivers paths o)
    deliver letter
    printLine (report receivers.recipients letter.time)
    return some letter.message

/-- a mail taken away by the sending server -/
def post (l : Letter) : Program Unit := Smtp.send l.options l.sender (.many l.envelope) l.data

/-- a mail sent -/
def send (config : Config) (user password : Text) (o : Order) : Program (Option Message) :=
  sendWith post config user password o

end Mailroom.Client
