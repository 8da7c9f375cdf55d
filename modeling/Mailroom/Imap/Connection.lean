import Mailroom.Client.Config
import Mailroom.Imap.Mailbox
import Mailroom.Text.Quoted

/-!
# A connection to a mail server

The commands of the server (`login`, `select`, `search`, `fetch`, …), and what is made of them:

* `openFolder`      connects, logs in and opens a folder for reading;
* `disconnect`      closes the folder and logs out; complaints about that do not matter;
* `unseenCount`     the number of unread messages;
* `fetchMessages`   messages, without marking them as read.
-/

namespace Mailroom

namespace Imap

open Program

/-! ## items in messages -/

/-- an item as messages show it -/
def showItem : FetchItem → Text
  | .literal a b => "(" ++ Text.quotedOctets a ++ ", " ++ Text.quotedOctets b ++ ")"
  | .line b => Text.quotedOctets b
  | .nothing => "None"

/-- the data of an answer as messages show it -/
def showData : Option (List FetchItem) → Text
  | none => "None"
  | some is => "[" ++ [',', ' '].intercalate (is.map showItem) ++ "]"

/-! ## commands -/

/-- a connection to a server -/
def connect (host : Text) (port : Int) : Program Unit := do
  record (.imapConnect host port)
  complain (← session).imap.connect

/-- a login -/
def login (user password : Text) : Program Unit := do
  record (.login user password)
  complain (← session).imap.login

/-- the choice of a folder -/
def select (folder : Text) (readOnly : Bool) : Program Reply := do
  record (.select folder readOnly)
  let script := (← session).imap
  match script.select with
  | some r => settle r
  | none => return ⟨"OK", some [.line (Text.toOctets (Text.decimal script.messages.length))]⟩

/-- a search -/
def search (charset : Option Text) (criteria : Argument) : Program Reply := do
  record (.search charset criteria)
  match (← session).imap.search with
  | [] => return ⟨"OK", some [.line []]⟩
  | [r] => settle r
  | r :: rs =>
    change fun s => { s with imap := { s.imap with search := rs } }
    settle r

/-- the items that a fetch brings from some messages -/
def itemsOf (messages : List (List FetchItem)) (numbers : Text) : List FetchItem :=
  match Text.digits? numbers with
  | some (d :: ds) =>
    match Text.digitsValue (d :: ds) with
    | 0 => []
    | n + 1 => (messages[n]?).getD [.nothing]
  | _ => messages.flatten

/-- a fetch -/
def fetch (numbers items : Text) : Program Reply := do
  record (.fetch numbers items)
  let script := (← session).imap
  match script.fetch with
  | some r => settle r
  | none => return ⟨"OK", some (itemsOf script.messages numbers)⟩

/-- a folder closed -/
def close : Program Unit := do
  record .close
  complain (← session).imap.close

/-- the end of a connection -/
def logout : Program Unit := do
  record .logout
  complain (← session).imap.logout

/-! ## what is made of them -/

/-- the first item of an answer -/
def firstItem (r : Reply) : Except Fault FetchItem :=
  match r.data with
  | none => .error (.wrongType "'NoneType' object is not subscriptable")
  | some [] => .error .noSuchItem
  | some (i :: _) => .ok i

/-- the number that the first item of an answer tells -/
def countOf (r : Reply) : Except Fault Int := do
  let wrong (type : Text) : Except Fault Int :=
    .error (.wrongType ("int() argument must be a string, a bytes-like object or a real number, not '"
      ++ type ++ "'"))
  match ← firstItem r with
  | .line b => WholeNumber.ofOctets b
  | .nothing => wrong "NoneType"
  | .literal _ _ => wrong "tuple"

/-- the words of an item, none for an item that is not there -/
def words : FetchItem → Except Fault (List Octets)
  | .line b => .ok ((Text.wordsBy Fetch.isBlank (Text.ofMail b)).map Text.toMail)
  | .nothing => .ok []
  | .literal _ _ => .error (.noOperation "'tuple' object has no attribute 'split'")

/-- the words of the first item of an answer -/
def firstWords (r : Reply) : Except Fault (List Octets) :=
  match r.data with
  | some (i :: _) => words i
  | _ => .ok []

/-- the folder closed and the connection ended -/
def disconnect : Program Unit := do
  ignoring Fault.isImap close
  ignoring (fun f => f.isImap || f.isSystem) logout

/-- the name of a folder, without blanks around it; no name stands for the inbox -/
def folderName (config : Config) (folder : Option Text) : Text :=
  match folder with
  | some (c :: r) => Text.trim (c :: r)
  | _ => Text.trim config.inbox

/-- a folder opened for reading, and the number of its messages -/
def openFolder (config : Config) (user password : Text) (folder : Option Text) : Program Int := do
  let name := folderName config folder
  connect config.imapServer config.imapPort
  login user password
  let r ← select (folderArgument name) true
  if r.status ≠ "OK".toList then
    disconnect
    throw (.noFolder name ("imaps://" ++ user ++ "@" ++ config.imapServer ++ "/" ++ name))
  settle (countOf r)

/-- the number of unread messages -/
def unseenCount : Program Nat := do
  let r ← search none (.text "UNSEEN")
  if r.status = "OK".toList then return (← settle (firstWords r)).length else return 0

/-- what is asked of every message -/
def wholeItems : Text := "(FLAGS RFC822.SIZE INTERNALDATE BODY.PEEK[])"

/-- what is asked of messages whose bodies do not matter -/
def headerItems : Text := "(FLAGS RFC822.SIZE INTERNALDATE BODY.PEEK[HEADER])"

/-- messages -/
def fetchMessages (numbers items : Text) : Program (List Fetched) := do
  let r ← fetch numbers items
  if r.status ≠ "OK".toList then
    throw (.imap ("FETCH " ++ numbers ++ " failed: " ++ showData r.data))
  match r.data with
  | none => throw (.wrongType "'NoneType' object is not iterable")
  | some items => settle (Fetch.read (← session).zone items)

end Imap
end Mailroom
