import Mailroom.Files.Disk
import Mailroom.Imap.Fetch
import Mailroom.Imap.KeepAlive

/-!
# Programs and the world around them

A `Program` talks to a mail server, a sending server and a web server, reads and writes files, asks the
user and prints.  What they all will answer is laid down in the `Session` it runs in; the session also
keeps what the program did, so that a run can be told from beginning to end.

* `Call`        something the program asked of the world;
* `Session`     the answers still to come, and what was done so far;
* `Program`     a run: its result or the fault that stopped it, and the session after it;
* `ensuring`    a program with another one behind it, whatever comes of the first.
-/

namespace Mailroom

/-- an argument that is sent as text or as octets -/
inductive Argument where
  | text (s : Text)
  | octets (b : Octets)
deriving DecidableEq, Repr

/-- whom a mail is sent to: one address or a list -/
inductive Envelope where
  | one (address : Text)
  | many (addresses : List Text)
deriving DecidableEq, Repr

/-- something a program asked of the world -/
inductive Call where
  | imapConnect (host : Text) (port : Int)
  | login (user password : Text)
  | select (folder : Text) (readOnly : Bool)
  | search (charset : Option Text) (criteria : Argument)
  | fetch (numbers items : Text)
  | noop
  | close
  | logout
  | smtpConnect (host : Text) (port : Int)
  | smtpLogin (user password : Text)
  | sendMail (sender : Text) (recipients : Envelope) (data : Argument)
  | quit
  | askPassword (prompt : Text)
  | ask (prompt : Text)
  | openUrl (url : Text) (timeout : Int)
  | readUrl (count : Int)
  | closeUrl
deriving DecidableEq, Repr

/-- the answer of a mail server to a command: its status and, if it has any, its data -/
structure Reply where
  status : Text
  data : Option (List FetchItem)
deriving DecidableEq, Repr

/-- what a mail server will answer -/
structure ImapScript where
  connect : Option Fault
  login : Option Fault
  close : Option Fault
  logout : Option Fault
  /-- the answer to the choice of a folder; by default the number of messages -/
  select : Option (Except Fault Reply)
  /-- the answers to searches in order; the last one is repeated -/
  search : List (Except Fault Reply)
  /-- the messages, as the items that tell of them -/
  messages : List (List FetchItem)
  /-- the answer to every fetch, if it is not taken from the messages -/
  fetch : Option (Except Fault Reply)
  /-- the complaints about signs of life, in order -/
  noops : List (Option Fault)

/-- what a sending server will answer -/
structure SmtpScript where
  connect : Option Fault
  login : Option Fault
  send : Option Fault
  quit : Option Fault

/-- what a web server will answer: a content and a status, or a fault -/
structure WebScript where
  answer : Except Fault (Octets × Int)

/-- the answers still to come, and what was done so far -/
structure Session where
  zone : Zone
  disk : Disk
  imap : ImapScript
  smtp : SmtpScript
  web : WebScript
  /-- what the user will answer -/
  answers : List Text
  /-- what comes of a question behind the last answer -/
  silence : Fault := .interrupt []
  /-- how often the time of a watch over the connection is up, in each pause that the user makes -/
  pauses : List Nat := []
  /-- the watch over the connection -/
  watch : Imap.KeepAlive := .new
  /-- what the user will type as a password -/
  typed : Text
  /-- what comes of the question for a password in place of one, if anything does -/
  untyped : Option Fault := none
  /-- the variables of the environment -/
  environment : List (Text × Text)
  /-- the time, in seconds from the beginning of 1970 -/
  now : Int
  /-- the number that names the next message whose parts are saved -/
  serial : Text
  /-- the name of the next message that is sent -/
  messageId : Text
  /-- the boundary between the parts of the next message that is sent -/
  boundary : Text
  /-- what was asked of the world, in order -/
  calls : List Call
  /-- how many lists and objects a JSON text may open one inside the other: what the calls around the
  reader leave of a stack of a thousand -/
  room : Nat := 990
  /-- what was printed -/
  output : Text
  /-- what was printed as complaints -/
  complaints : Text

/-- a run: its result or the fault that stopped it, and the session after it -/
abbrev Program (α : Type) := ExceptT Fault (StateM Session) α

namespace Program

/-- the result of a program and the session after it -/
def runIn {α : Type} (p : Program α) (s : Session) : Except Fault α × Session := p s

/-- a result without a run -/
def settle {α : Type} (r : Except Fault α) : Program α := fun s => (r, s)

/-- the session -/
def session : Program Session := fun s => (.ok s, s)

/-- the session changed -/
def change (f : Session → Session) : Program Unit := fun s => (.ok (), f s)

/-- the fault of a script, if there is one -/
def complain (f : Option Fault) : Program Unit := fun s =>
  match f with
  | some f => (.error f, s)
  | none => (.ok (), s)

/-- a call put on record -/
def record (c : Call) : Program Unit := change fun s => { s with calls := s.calls ++ [c] }

/-- a text printed -/
def print (t : Text) : Program Unit := change fun s => { s with output := s.output ++ t }

/-- a line printed -/
def printLine (t : Text) : Program Unit := print (t ++ ['\n'])

/-- a program with another one behind it, whatever comes of the first; a fault of the second one wins -/
def ensuring {α : Type} (body : Program α) (after : Program Unit) : Program α := fun s =>
  match body s with
  | (r, s1) =>
    match after s1 with
    | (.ok _, s2) => (r, s2)
    | (.error f, s2) => (.error f, s2)

/-- a program whose faults of a kind go to another program -/
def handling {α : Type} (body : Program α) (handler : Fault → Option (Program α)) : Program α :=
  fun s =>
    match body s with
    | (.error f, s1) =>
      match handler f with
      | some p => p s1
      | none => (.error f, s1)
    | r => r

/-- a program whose faults of a kind do not matter -/
def ignoring (kind : Fault → Bool) (body : Program Unit) : Program Unit :=
  handling body fun f => if kind f then some (pure ()) else none

end Program
end Mailroom
