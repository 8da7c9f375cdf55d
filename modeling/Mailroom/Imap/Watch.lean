import Mailroom.Session.Program

/-!
# The watch over a connection

While the user is asked, a watch over the connection is running.  The user takes time, and whenever the
time of the watch is up it sends a sign of life; one that fails is told and ends the watch.

* `timeUp`    the time of the watch is up;
* `pause`     the user takes time;
* `watched`   a program during which the connection is watched over.
-/

namespace Mailroom

/-- the complaint about a sign of life, by the number of those before it -/
def ImapScript.trouble (script : ImapScript) (sent : Nat) : Option Fault := (script.noops[sent]?).join

namespace Imap

open Program

/-- the time of the watch is up: if it is running, it sends a sign of life and tells of one that fails -/
def timeUp : Program Unit := do
  let s ← session
  if s.watch.isRunning then
    let trouble := s.imap.trouble (s.calls.count .noop)
    record .noop
    change fun s => { s with watch := s.watch.step (.timeUp trouble) }
    print (trouble.elim [] KeepAlive.report)

/-- the user takes time -/
def pause : Program Unit := do
  match (← session).pauses with
  | [] => return ()
  | n :: rest =>
    change fun s => { s with pauses := rest }
    (List.replicate n ()).forM fun _ => timeUp

/-- a program during which the connection is watched over -/
def watched {α : Type} (body : Program α) : Program α := do
  change fun s => { s with watch := KeepAlive.new.step .start }
  ensuring
    (do
      pause
      body)
    (change fun s => { s with watch := s.watch.step .cancel })

end Imap
end Mailroom
