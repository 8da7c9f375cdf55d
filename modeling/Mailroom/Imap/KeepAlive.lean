import Mailroom.Fault

/-!
# Signs of life

While the user reads, the connection is kept open by a sign of life from time to time.  The watch over it
is started and cancelled by its owner; when its time is up it sends a sign, and a sign that fails ends it.

* `KeepAlive`        the watch: its phase, how many signs it sent, and what it printed;
* `KeepAlive.step`   what an event does to it.
-/

namespace Mailroom.Imap

/-- what a watch is doing -/
inductive Phase where
  | idle
  | running
  | failed
deriving DecidableEq, Repr

/-- what happens to a watch; a sign of life is answered or fails -/
inductive WatchEvent where
  | start
  | cancel
  | timeUp (trouble : Option Fault)

/-- a watch over a connection -/
structure KeepAlive where
  phase : Phase
  signs : Nat
  output : Text
deriving Repr

namespace KeepAlive

/-- a watch that was not started yet -/
def new : KeepAlive := ⟨.idle, 0, []⟩

/-- whether a watch is running -/
def isRunning (k : KeepAlive) : Bool := k.phase == .running

/-- what a watch prints when a sign of life fails; a fault that is no complaint of the server or the
system is not told -/
def report (f : Fault) : Text :=
  if f.isImap || f.isSystem then "==> Keep-alive failed: " ++ f.message ++ "\n" else []

/-- a watch after an event -/
def step (k : KeepAlive) : WatchEvent → KeepAlive
  | .start => { k with phase := .running }
  | .cancel => { k with phase := .idle }
  | .timeUp trouble =>
    if k.isRunning then
      match trouble with
      | none => { k with signs := k.signs + 1 }
      | some f => ⟨.failed, k.signs + 1, k.output ++ report f⟩
    else k

/-- a running watch after its signs of life, up to the first one that fails, and the signs that are
left -/
def untilFailure (k : KeepAlive) : List (Option Fault) → KeepAlive × List (Option Fault)
  | [] => (k, [])
  | t :: ts => if k.isRunning then untilFailure (k.step (.timeUp t)) ts else (k, t :: ts)

end KeepAlive
end Mailroom.Imap
