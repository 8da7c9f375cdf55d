import Mailroom.Imap.KeepAlive
import Mathlib.Data.List.Induction

/-!
# A watch and its owner side by side

A watch runs beside its owner.  The owner starts it, goes on, and cancels it: it raises a flag, waits until
the sender of the signs has ended and goes on again.  The sender looks at the flag, waits until its time is
up or the flag is raised, sends a sign, waits for the answer and begins anew; it ends when it finds the flag
raised, or when a sign fails.  The time may run out while the flag is being raised, so that a last sign goes
out after that.

* `Watching`, `Move`      where owner and sender stand, and the steps of either;
* `Watching.run`          steps in any order in which they can be taken;
* `Watching.Sound`        there is a sender as long as the owner has started it and waits for its end;
* `IsOpen`                a start that no cancel has completed;
* `Watching.Over`         the sender sends nothing any more;
* `Watching.confined_run` signs are sent between a start and the end of its cancel, none behind one that
  failed;
* `Move.seen`, `phase_run`   the events that a `KeepAlive` sees of the steps, and its phase behind them;
* `exists_run_of_signs`   whatever a `KeepAlive` can see is seen in some order.
-/

namespace Mailroom.Imap

/-! ## steps -/

/-- where the owner of a watch stands: outside, within the start, inside, or waiting for the end of the
sender -/
inductive OwnerPlace where
  | outside
  | starting
  | inside
  | cancelling
deriving DecidableEq, Repr

/-- where the sender of the signs stands; it may have ended because of the flag, or because of a sign that
failed -/
inductive SenderPlace where
  | absent
  | looking
  | waiting
  | due
  | sending
  | finished
  | failed
deriving DecidableEq, Repr

/-- where owner and sender stand, and whether the flag that ends the sender is raised -/
structure Watching where
  owner : OwnerPlace
  sender : SenderPlace
  raised : Bool
deriving DecidableEq, Repr

/-- the steps of the owner and those of the sender -/
inductive Move where
  /-- the owner lowers the flag -/
  | start
  /-- the owner lets the sender begin -/
  | spawn
  /-- the owner raises the flag -/
  | cancel
  /-- the owner has seen the end of the sender -/
  | joined
  /-- the sender looks at the flag: it ends, or it waits -/
  | look
  /-- the sender is woken by the flag -/
  | woken
  /-- the time of the sender is up -/
  | timeUp
  /-- the sender sends a sign -/
  | send
  /-- the sign is answered, or it fails -/
  | answered (trouble : Option Fault)

namespace Watching

/-- no watch was started -/
def outset : Watching := ⟨.outside, .absent, false⟩

/-- what a step makes of a watch, if it can be taken; the time may be up although the flag was raised -/
def step (w : Watching) : Move → Option Watching
  | .start => if w.owner = .outside then some { w with owner := .starting, raised := false } else none
  | .spawn => if w.owner = .starting then some { w with owner := .inside, sender := .looking } else none
  | .cancel => if w.owner = .inside then some { w with owner := .cancelling, raised := true } else none
  | .joined =>
    if w.owner = .cancelling ∧ (w.sender = .finished ∨ w.sender = .failed) then
      some { w with owner := .outside, sender := .absent }
    else none
  | .look =>
    if w.sender = .looking then some { w with sender := if w.raised then .finished else .waiting }
    else none
  | .woken => if w.sender = .waiting ∧ w.raised = true then some { w with sender := .finished } else none
  | .timeUp => if w.sender = .waiting then some { w with sender := .due } else none
  | .send => if w.sender = .due then some { w with sender := .sending } else none
  | .answered trouble =>
    if w.sender = .sending then
      some { w with sender := if trouble.isSome then .failed else .looking }
    else none

/-- steps one after the other -/
def run (w : Watching) (moves : List Move) : Option Watching := moves.foldlM step w

variable {w w' : Watching} {m : Move} {moves moves' : List Move}

theorem run_append : w.run (moves ++ moves') = (w.run moves).bind fun v => v.run moves' :=
  List.foldlM_append

theorem run_append_cons_eq_some :
    w.run (moves ++ m :: moves') = some w' ↔
      ∃ u v, w.run moves = some u ∧ u.step m = some v ∧ v.run moves' = some w' := by
  rw [run_append, Option.bind_eq_some_iff]
  constructor
  · rintro ⟨u, hu, h⟩
    obtain ⟨v, hv, h⟩ := Option.bind_eq_some_iff.1 h
    exact ⟨u, v, hu, hv, h⟩
  · rintro ⟨u, v, hu, hv, h⟩
    exact ⟨u, hu, Option.bind_eq_some_iff.2 ⟨v, hv, h⟩⟩

/-- the steps that can be taken, one by one -/
inductive Takes : Watching → Move → Watching → Prop
  | start {sender raised} : Takes ⟨.outside, sender, raised⟩ .start ⟨.starting, sender, false⟩
  | spawn {sender raised} : Takes ⟨.starting, sender, raised⟩ .spawn ⟨.inside, .looking, raised⟩
  | cancel {sender raised} : Takes ⟨.inside, sender, raised⟩ .cancel ⟨.cancelling, sender, true⟩
  | joined {sender raised} (hended : sender = .finished ∨ sender = .failed) :
      Takes ⟨.cancelling, sender, raised⟩ .joined ⟨.outside, .absent, raised⟩
  | look {owner raised} :
      Takes ⟨owner, .looking, raised⟩ .look ⟨owner, if raised then .finished else .waiting, raised⟩
  | woken {owner} : Takes ⟨owner, .waiting, true⟩ .woken ⟨owner, .finished, true⟩
  | timeUp {owner raised} : Takes ⟨owner, .waiting, raised⟩ .timeUp ⟨owner, .due, raised⟩
  | send {owner raised} : Takes ⟨owner, .due, raised⟩ .send ⟨owner, .sending, raised⟩
  | well {owner raised} : Takes ⟨owner, .sending, raised⟩ (.answered none) ⟨owner, .looking, raised⟩
  | failed {owner raised f} : Takes ⟨owner, .sending, raised⟩ (.answered (some f)) ⟨owner, .failed, raised⟩

theorem takes_of_step (h : w.step m = some w') : Takes w m w' := by
  obtain ⟨owner, sender, raised⟩ := w
  cases m with
  | start | spawn | cancel | look | timeUp | send =>
    obtain ⟨rfl, h⟩ := Option.ite_none_right_eq_some.1 h
    cases h
    constructor
  | joined =>
    obtain ⟨⟨rfl, hended⟩, h⟩ := Option.ite_none_right_eq_some.1 h
    cases h
    exact .joined hended
  | woken =>
    obtain ⟨⟨rfl, rfl⟩, h⟩ := Option.ite_none_right_eq_some.1 h
    cases h
    exact .woken
  | answered trouble =>
    obtain ⟨rfl, h⟩ := Option.ite_none_right_eq_some.1 h
    cases h
    cases trouble <;> constructor

/-- what holds at the outset and from one step to the next holds behind every run -/
theorem run_induction {motive : List Move → Watching → Prop} (houtset : motive [] outset)
    (hstep : ∀ moves w m w', outset.run moves = some w → motive moves w → w.step m = some w' →
      motive (moves ++ [m]) w') (h : outset.run moves = some w) : motive moves w := by
  induction moves using List.reverseRecOn generalizing w with
  | nil =>
    cases h
    exact houtset
  | append_singleton moves m ih =>
    obtain ⟨u, v, hu, hstepped, h⟩ := run_append_cons_eq_some.1 h
    cases h
    exact hstep moves u m _ hu (ih hu) hstepped

/-! ## sessions -/

/-- there is a sender from the end of the start to the end of the cancel -/
def Sound (w : Watching) : Prop := w.sender = .absent ↔ w.owner = .outside ∨ w.owner = .starting

theorem sound_step (hw : w.Sound) (h : w.step m = some w') : w'.Sound := by
  unfold Sound at *
  cases takes_of_step h with
  | start | cancel | woken | timeUp | send | well | failed => simpa using hw
  | spawn | joined => simp
  | look => split <;> simpa using hw

theorem sound_run (h : outset.run moves = some w) : w.Sound :=
  run_induction (motive := fun _ => Sound) (by simp [Sound, outset]) (fun _ _ _ _ _ => sound_step) h

/-- steps behind a start whose cancel is not completed yet -/
def IsOpen (moves : List Move) : Prop := ∃ past since, moves = past ++ .start :: since ∧ .joined ∉ since

theorem IsOpen.snoc (h : IsOpen moves) (hm : m ≠ .joined) : IsOpen (moves ++ [m]) := by
  obtain ⟨past, since, rfl, hsince⟩ := h
  refine ⟨past, since ++ [m], by simp, ?_⟩
  rw [List.mem_append, List.mem_singleton]
  rintro (h | h)
  · exact hsince h
  · exact hm h.symm

/-- the owner is not outside only behind a start -/
theorem isOpen_run (h : outset.run moves = some w) : w.owner ≠ .outside → IsOpen moves := by
  refine run_induction (motive := fun moves w => w.owner ≠ .outside → IsOpen moves)
    (fun h => absurd rfl h) (fun moves w m w' _ ih hstep hw' => ?_) h
  cases takes_of_step hstep with
  | start => exact ⟨moves, [], rfl, nofun⟩
  | joined => exact absurd rfl hw'
  | spawn | cancel => exact (ih nofun).snoc nofun
  | look | woken | timeUp | send | well | failed => exact (ih hw').snoc nofun

/-- nothing is sent before the next start -/
structure Over (w : Watching) : Prop where
  owner : w.owner ≠ .starting
  sender : w.sender = .absent ∨ w.sender = .finished ∨ w.sender = .failed

theorem over_step (hw : w.Over) (hm : m ≠ .start) (h : w.step m = some w') : w'.Over ∧ m ≠ .send := by
  obtain ⟨howner, hsender⟩ := hw
  cases takes_of_step h with
  | start => exact absurd rfl hm
  | spawn => exact absurd rfl howner
  | cancel => exact ⟨⟨nofun, hsender⟩, nofun⟩
  | joined => exact ⟨⟨nofun, .inl rfl⟩, nofun⟩
  | look | woken | timeUp | send | well | failed => simp at hsender

/-- when nothing is sent before the next start, a sign that is sent comes behind a start -/
theorem start_mem_of_over (hw : w.Over) (h : w.run (moves ++ .send :: moves') = some w') : .start ∈ moves := by
  induction moves generalizing w with
  | nil =>
    obtain ⟨u, v, hu, hstep, -⟩ := run_append_cons_eq_some.1 h
    cases hu
    have hsend := over_step hw (fun h : Move.send = .start => nomatch h) hstep
    exact absurd rfl hsend.2
  | cons m moves ih =>
    have hrun : w.run ([] ++ m :: (moves ++ .send :: moves')) = some w' := h
    obtain ⟨u, v, hu, hstep, hrest⟩ := run_append_cons_eq_some.1 hrun
    cases hu
    by_cases hm : m = .start
    · exact hm ▸ List.mem_cons_self
    · exact List.mem_cons_of_mem _ (ih (over_step hw hm hstep).1 hrest)

/-- signs are sent between a start and the completion of its cancel, and none is sent behind one that
failed or behind a cancel that was completed before there is a new start -/
structure Confined (moves : List Move) : Prop where
  inside : ∀ past rest, moves = past ++ .send :: rest → IsOpen past
  afterFailure : ∀ past f since rest,
    moves = past ++ .answered (some f) :: (since ++ .send :: rest) → .start ∈ since
  afterCancel : ∀ past since rest, moves = past ++ .joined :: (since ++ .send :: rest) → .start ∈ since

theorem confined_run (h : outset.run moves = some w) : Confined moves := by
  constructor
  case inside =>
    rintro past rest rfl
    obtain ⟨u, v, hu, hstep, -⟩ := run_append_cons_eq_some.1 h
    refine isOpen_run hu fun houtside => ?_
    have habsent := (sound_run hu).2 (.inl houtside)
    cases takes_of_step hstep
    cases habsent
  case afterFailure =>
    rintro past f since rest rfl
    obtain ⟨u, v, hu, hstep, hrest⟩ := run_append_cons_eq_some.1 h
    have hsound := sound_step (sound_run hu) hstep
    cases takes_of_step hstep
    refine start_mem_of_over ⟨fun howner => ?_, .inr (.inr rfl)⟩ hrest
    cases hsound.2 (.inr howner)
  case afterCancel =>
    rintro past since rest rfl
    obtain ⟨u, v, hu, hstep, hrest⟩ := run_append_cons_eq_some.1 h
    cases takes_of_step hstep with
    | joined => exact start_mem_of_over ⟨by simp, .inl rfl⟩ hrest

end Watching

/-! ## what a watch sees -/

/-- what a watch is told of a step: when a sender begins, when its end was seen, and how a sign is
answered -/
def Move.seen : Move → Option WatchEvent
  | .spawn => some .start
  | .joined => some .cancel
  | .answered trouble => some (.timeUp trouble)
  | _ => none

/-- a watch behind some steps -/
def KeepAlive.behind (moves : List Move) : KeepAlive := (moves.filterMap Move.seen).foldl KeepAlive.step .new

/-- what a watch is doing when owner and sender stand so -/
def Watching.phase (w : Watching) : Phase :=
  match w.sender with
  | .absent => .idle
  | .failed => .failed
  | _ => .running

variable {w : Watching} {moves : List Move}

theorem KeepAlive.phase_timeUp {k : KeepAlive} (hk : k.phase = .running) (trouble : Option Fault) :
    (k.step (.timeUp trouble)).phase = if trouble.isSome then .failed else .running := by
  cases trouble <;> simp [step, isRunning, hk]

/-- a watch that sees the beginning and the end of its sender and the answers to the signs knows what it is
doing -/
theorem phase_run (h : Watching.outset.run moves = some w) : (KeepAlive.behind moves).phase = w.phase := by
  refine Watching.run_induction (motive := fun moves w => (KeepAlive.behind moves).phase = w.phase) rfl
    (fun moves w m w' _ ih hstep => ?_) h
  have hnext : KeepAlive.behind (moves ++ [m]) = m.seen.toList.foldl KeepAlive.step (KeepAlive.behind moves) := by
    unfold KeepAlive.behind
    rw [List.filterMap_append, List.foldl_append]
    cases m <;> rfl
  rw [hnext]
  cases Watching.takes_of_step hstep with
  | spawn | joined => rfl
  | start | cancel | woken | timeUp | send => exact ih
  | look => split <;> exact ih
  | well => exact KeepAlive.phase_timeUp ih none
  | @failed _ _ f => exact KeepAlive.phase_timeUp ih (some f)

/-- a sign is sent only while the watch is running -/
theorem isRunning_of_send {past rest : List Move} (h : Watching.outset.run (past ++ .send :: rest) = some w) :
    (KeepAlive.behind past).isRunning = true := by
  obtain ⟨u, v, hu, hstep, -⟩ := Watching.run_append_cons_eq_some.1 h
  have hphase := phase_run hu
  cases Watching.takes_of_step hstep
  rw [KeepAlive.isRunning, hphase]
  rfl

/-- a sign whenever the time is up is one of the orders: what a watch sees while its owner is inside, it can
see of the steps of both -/
theorem exists_run_of_signs (troubles : List (Option Fault)) :
    ∃ moves w, Watching.outset.run moves = some w ∧ w.owner = .inside ∧ KeepAlive.behind moves
      = troubles.foldl (fun k trouble => k.step (.timeUp trouble)) (KeepAlive.new.step .start) := by
  -- between two signs the sender is about to look at a flag that is not raised, or it has failed
  suffices h : ∃ moves sender, Watching.outset.run moves = some ⟨.inside, sender, false⟩ ∧
      (sender = .looking ∨ sender = .failed) ∧ KeepAlive.behind moves
        = troubles.foldl (fun k trouble => k.step (.timeUp trouble)) (KeepAlive.new.step .start) by
    obtain ⟨moves, sender, hrun, -, hbehind⟩ := h
    exact ⟨moves, _, hrun, rfl, hbehind⟩
  induction troubles using List.reverseRecOn with
  | nil => exact ⟨[.start, .spawn], .looking, rfl, .inl rfl, rfl⟩
  | append_singleton troubles trouble ih =>
    obtain ⟨moves, sender, hrun, hsender, hbehind⟩ := ih
    have hphase := phase_run hrun
    rw [List.foldl_append, ← hbehind]
    rcases hsender with rfl | rfl
    · refine ⟨moves ++ [.look, .timeUp, .send, .answered trouble],
        if trouble.isSome then .failed else .looking, ?_, ?_, ?_⟩
      · rw [Watching.run_append, hrun]
        rfl
      · cases trouble <;> simp
      · rw [KeepAlive.behind, List.filterMap_append, List.foldl_append]
        rfl
    · have hover : (KeepAlive.behind moves).isRunning = false := by
        rw [KeepAlive.isRunning, hphase]
        rfl
      refine ⟨moves, .failed, hrun, .inr rfl, ?_⟩
      simp [KeepAlive.step, hover]

end Mailroom.Imap
