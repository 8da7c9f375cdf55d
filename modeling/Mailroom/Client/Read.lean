import Mailroom.Client.Select
import Mailroom.Filter.Compile
import Mailroom.Filter.Description
import Mailroom.Imap.Watch
import Mailroom.View.Show

/-!
# Reading a folder

* `page`     shows messages one at a time and asks before each next one, with a watch over the
  connection;
* `review`   says what is in an open folder and pages through it;
* `opened`   opens a folder, or tells that it is not there;
* `read`     opens a folder, reviews it and closes the connection, whatever comes of it.
-/

namespace Mailroom.Client

open Program

/-- how a folder is read -/
structure Options where
  filter : Option Text
  limit : Option Int
  /-- whether attachments are saved -/
  download : Bool
  /-- whether the oldest of the chosen messages is shown first -/
  reverse : Bool
  /-- whether the oldest messages are chosen -/
  oldest : Bool
deriving Repr

/-- an answer of the user, who takes time for it, or the fault that stands behind the last one -/
def ask (prompt : Text) : Program Text := do
  record (.ask prompt)
  Imap.pause
  let s ← session
  match s.answers with
  | [] => throw s.silence
  | a :: rest =>
    change fun s => { s with answers := rest }
    return a

/-- what the user is asked between two messages -/
def pagePrompt : Text := "- Press enter to view next message (type 'q' to exit): "

/-- an answer that ends the paging -/
def isQuit (answer : Text) : Bool := Text.lower answer == "q".toList

/-- whether the user wants to see another message; asked until the answer is understood.  `tries` is
larger than the number of answers there are -/
def wantsMore : (tries : Nat) → Program Bool
  | 0 => throw (.interrupt [])
  | n + 1 => do
    let a ← ask pagePrompt
    if a.isEmpty then return true
    else if isQuit a then return false
    else wantsMore n

/-- messages shown from a position on, of `total` messages -/
def pageFrom (own : Option Mailbox) (below : Option Text) (nameLimit : Int) (total position : Nat) :
    List Int → Program Nat
  | [] => return 0
  | number :: numbers => do
    match ← Imap.fetchMessages (Text.decimalInt number) Imap.wholeItems with
    | [] => throw .noSuchItem
    | f :: _ =>
      let _ ← View.display f position own below nameLimit
      if total ≤ 1 then return 1 + (← pageFrom own below nameLimit total (position + 1) numbers)
      else
        printLine View.rule
        print ("==> Showing message [" ++ Text.decimal position ++ "/" ++ Text.decimal total ++ "] ")
        if position = total then
          printLine []
          return 1
        else if ← Imap.watched (wantsMore ((← session).answers.length + 1)) then
          return 1 + (← pageFrom own below nameLimit total (position + 1) numbers)
        else return 1

/-- messages shown one at a time; the result is how many were shown -/
def page (own : Option Mailbox) (below : Option Text) (nameLimit : Int) (numbers : List Int) :
    Program Nat := do
  let shown ← pageFrom own below nameLimit numbers.length 1 numbers
  printLine View.rule
  return shown

/-- the messages of an open folder reviewed; the result is how many were shown -/
def review (count : Int) (folder : Text) (options : Options) (own : Option Mailbox)
    (nameLimit : Int) : Program Nat := do
  let zone := (← session).zone
  let tree ← match options.filter with
    | some e => do pure (some (← settle (Filter.compile zone e)))
    | none => pure none
  let unseen ← Imap.unseenCount
  printLine ("==> Found " ++ Text.decimalInt count ++ " mail(s) in '" ++ folder ++ "' folder ("
    ++ Text.decimal unseen ++ " unread)")
  let chosen ← select count tree options.limit options.oldest
  match tree with
  | some t =>
    printLine ("==> Filter: " ++ (← settle (t.describe zone)))
    printLine ("==> Found " ++ Text.decimal chosen.matched ++ " mail(s) matching the criteria")
  | none => pure ()
  let direction : Text := if options.oldest then "oldest" else "latest"
  printLine ("==> Fetching " ++ direction ++ " " ++ Text.decimal chosen.numbers.length ++ " mail(s)")
  if chosen.numbers.isEmpty then return 0
  else
    let home := (← session).disk.home
    let below := if options.download then some home else none
    page own below nameLimit (if options.reverse then chosen.numbers else chosen.numbers.reverse)

/-- a folder opened, and how many messages it has; that it is not there is told -/
def opened (config : Config) (user password : Text) (folder : Option Text) : Program (Option Int) :=
  handling
    (do return some (← Imap.openFolder config user password folder))
    fun
      | .noFolder name server => some do
        printLine ("==> " ++ (Fault.noFolder name server).message)
        return none
      | _ => none

/-- a folder read; nothing is shown if it is not there -/
def read (config : Config) (user password : Text) (folder : Option Text) (options : Options) :
    Program (Option Nat) := do
  match ← opened config user password folder with
  | none => return none
  | some count =>
    let own : Mailbox := ⟨config.mailName, user ++ "@" ++ config.mailDomain⟩
    some <$> ensuring
      (review count (Imap.folderName config folder) options (some own) config.maxFilenameLength)
      Imap.disconnect

end Mailroom.Client
