import Mailroom.Session.Program
import Mailroom.View.Body
import Mailroom.View.Header

/-!
# Showing a message

`display` prints the heading of a message and its body.  With a directory given, the parts that can be
saved are saved below it, in a directory of the message's own; a part that names no file gets a name
from its place.
-/

namespace Mailroom.View

open Program

/-- the file name of a part that is saved: the one it suggests, without directories, or one made of the
name of the message and the place of the part -/
def savedName (mailName : Text) (spot : Spot) : Option Text → Text
  | some (c :: r) => Path.baseName (c :: r)
  | _ =>
    let inner : Text := if spot.depth = 0 then "_" else "_inner_"
    Path.baseName (mailName ++ inner ++ Text.decimal spot.index ++ ".html")

/-- a part saved in a directory, which is made if it is not there -/
def save (directory : Text) (m : Message) (spot : Spot) : Program Unit := do
  let (done, made) := (← session).disk.makeDirectory directory
  change fun s => { s with disk := made }
  settle done
  let name := savedName (Path.baseName directory) spot (← settle m.header.filename?)
  let content := (← settle m.content?).getD []
  let written ← settle (made.write (Path.join directory name) content)
  change fun s => { s with disk := written }

/-- the lines of entries, whose parts are saved on the way if there is a directory for them -/
def linesSaving (directory : Option Text) : List (Except Fault Entry) → Program (List Text)
  | [] => return []
  | e :: es => do
    let entry ← settle e
    match directory, entry.saved with
    | some d, some (m, spot) => save d m spot
    | _, _ => pure ()
    return entry.lines ++ (← linesSaving directory es)

/-- lines printed -/
def printLines (ls : List Text) : Program Unit := ls.forM printLine

/-- a message shown; its parts are saved below the directory `below`, if there is one.  The result is
the directory that holds them -/
def display (f : Fetched) (position : Int) (own : Option Mailbox) (below : Option Text)
    (nameLimit : Int) : Program (Option Text) := do
  printLines (← settle (heading (← session).zone f position own))
  match below with
  | none =>
    printLines (← linesSaving none (bodyEntries f.message))
    return none
  | some b =>
    let serial := (← session).serial
    let directory := Path.join b (← settle (mailId serial f.message nameLimit))
    printLines (← linesSaving (some directory) (bodyEntries f.message))
    return if (← session).disk.isDirectoryAt directory then some directory else none

end Mailroom.View
