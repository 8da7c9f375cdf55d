import Mailroom.Proofs.Client.Paging
import Mailroom.Proofs.Imap.Answers
import Mailroom.Proofs.Imap.Interleaving

/-!
# Watches around prompts

Between two messages the user is asked, and only then is there a watch over the connection: it is cancelled
whatever comes of the question.

* `AlikeOn`           programs that do the same in every session with a property;
* `pageWith`          the showing of messages with any way to fetch them;
* `Unwatched`         no watch is live;
* `orWhenWatched`     a program that another one stands in for while a watch is live;
* `alikeOn_page`      in the showing of messages, nothing ever stands in for a fetch;
* `signs_within_prompts`   signs of life are sent within prompts.
-/

namespace Mailroom

open Program

/-! ## programs that do the same -/

namespace Program

variable {α β : Type} {I : Session → Prop}

/-- two programs that do the same in every session with a property, and keep the property -/
def AlikeOn (I : Session → Prop) (p q : Program α) : Prop :=
  ∀ s, I s → p.runIn s = q.runIn s ∧ I (q.runIn s).2

theorem AlikeOn.refl {p : Program α} (h : ∀ s, I s → I (p.runIn s).2) : AlikeOn I p p :=
  fun s hs => ⟨rfl, h s hs⟩

theorem AlikeOn.pure (a : α) : AlikeOn I (Pure.pure a : Program α) (Pure.pure a) := .refl fun _ hs => hs

theorem AlikeOn.throw (f : Fault) : AlikeOn I (throw f : Program α) (throw f) := .refl fun _ hs => hs

theorem AlikeOn.bind {p q : Program α} {k l : α → Program β} (h : AlikeOn I p q)
    (hk : ∀ a, AlikeOn I (k a) (l a)) : AlikeOn I (p >>= k) (q >>= l) := by
  intro s hs
  obtain ⟨heq, hI⟩ := h s hs
  rw [runIn_bind, runIn_bind, heq]
  cases hq : q.runIn s with
  | mk r t =>
    rw [hq] at hI
    cases r with
    | ok a => exact hk a t hI
    | error f => exact ⟨rfl, hI⟩

theorem AlikeOn.session_bind {k l : Session → Program β} (h : ∀ s, AlikeOn I (k s) (l s)) :
    AlikeOn I (session >>= k) (session >>= l) := .bind (.refl fun _ hs => hs) h

end Program

namespace Client

/-! ## a page with another way to fetch -/

/-- messages shown from a position on, with a way to fetch them -/
def pageFromWith (fetch : Text → Text → Program (List Fetched)) (own : Option Mailbox)
    (below : Option Text) (nameLimit : Int) (total position : Nat) : List Int → Program Nat
  | [] => return 0
  | number :: numbers => do
    match ← fetch (Text.decimalInt number) Imap.wholeItems with
    | [] => throw .noSuchItem
    | f :: _ =>
      let _ ← View.display f position own below nameLimit
      if total ≤ 1 then
        return 1 + (← pageFromWith fetch own below nameLimit total (position + 1) numbers)
      else
        printLine View.rule
        print ("==> Showing message [" ++ Text.decimal position ++ "/" ++ Text.decimal total ++ "] ")
        if position = total then
          printLine []
          return 1
        else if ← Imap.watched (wantsMore ((← session).answers.length + 1)) then
          return 1 + (← pageFromWith fetch own below nameLimit total (position + 1) numbers)
        else return 1

/-- messages shown one at a time, with a way to fetch them -/
def pageWith (fetch : Text → Text → Program (List Fetched)) (own : Option Mailbox) (below : Option Text)
    (nameLimit : Int) (numbers : List Int) : Program Nat := do
  let shown ← pageFromWith fetch own below nameLimit numbers.length 1 numbers
  printLine View.rule
  return shown

variable {own : Option Mailbox} {below : Option Text} {nameLimit : Int} {total position : Nat}
  {numbers : List Int}

theorem pageFromWith_fetchMessages :
    pageFromWith Imap.fetchMessages own below nameLimit total position numbers
      = pageFrom own below nameLimit total position numbers := by
  induction numbers generalizing position with
  | nil => rfl
  | cons n ns ih =>
    rw [pageFromWith, ih]
    rfl

theorem pageWith_fetchMessages :
    pageWith Imap.fetchMessages own below nameLimit numbers = page own below nameLimit numbers := by
  rw [pageWith, pageFromWith_fetchMessages]
  rfl

/-! ## no watch beside a fetch -/

/-- no watch is live -/
def Unwatched (s : Session) : Prop := s.watch.phase = .idle

instance : DecidablePred Unwatched := fun s => inferInstanceAs (Decidable (s.watch.phase = .idle))

/-- a program in whose place another one is run while a watch is live -/
def orWhenWatched {α : Type} (p other : Program α) : Program α := do
  if Unwatched (← session) then p else other

theorem alikeOn_orWhenWatched {α : Type} {p : Program α} (other : Program α)
    (hp : ∀ s, Unwatched s → Unwatched (p.runIn s).2) : AlikeOn Unwatched (orWhenWatched p other) p := by
  intro s hs
  unfold orWhenWatched
  rw [runIn_bind, runIn_session]
  dsimp only
  rw [if_pos hs]
  exact ⟨rfl, hp s hs⟩

theorem unwatched_fetchMessages (numbers items : Text) (s : Session) (hs : Unwatched s) :
    Unwatched ((Imap.fetchMessages numbers items).runIn s).2 := by
  rw [Imap.runIn_fetchMessages]
  exact hs

theorem unwatched_display (f : Fetched) (position : Int) (own : Option Mailbox) (below : Option Text)
    (limit : Int) (s : Session) (hs : Unwatched s) :
    Unwatched ((View.display f position own below limit).runIn s).2 := by
  have hprints := View.keeps_display f position own below limit s
  unfold Unwatched
  rw [hprints.rest]
  exact hs

/-- whatever comes of a program that is watched over, the watch is cancelled behind it -/
theorem unwatched_watched {α : Type} (body : Program α) (s : Session) :
    Unwatched ((Imap.watched body).runIn s).2 := by
  unfold Imap.watched
  rw [runIn_bind, runIn_change]
  dsimp only
  rw [runIn_ensuring]
  rfl

theorem alikeOn_pageFrom (other : Text → Text → Program (List Fetched)) :
    AlikeOn Unwatched
      (pageFromWith (fun ns items => orWhenWatched (Imap.fetchMessages ns items) (other ns items))
        own below nameLimit total position numbers)
      (pageFromWith Imap.fetchMessages own below nameLimit total position numbers) := by
  have hprint : ∀ t, AlikeOn Unwatched (print t) (print t) := fun t => .refl fun _ hs => hs
  induction numbers generalizing position with
  | nil => exact .pure 0
  | cons n ns ih =>
    have hrest : ∀ position, AlikeOn Unwatched _ _ := fun position =>
      (@ih position).bind fun shown => .pure (1 + shown)
    refine (alikeOn_orWhenWatched _ (unwatched_fetchMessages _ _)).bind fun fs => ?_
    cases fs with
    | nil => exact .throw _
    | cons f fs =>
      refine (AlikeOn.refl (unwatched_display f position own below nameLimit)).bind fun _ => ?_
      split
      · exact hrest _
      refine (hprint _).bind fun _ => (hprint _).bind fun _ => ?_
      split
      · exact (hprint _).bind fun _ => .pure 1
      refine .session_bind fun s => ?_
      refine (AlikeOn.refl fun s _ => unwatched_watched _ s).bind fun more => ?_
      split
      · exact hrest _
      · exact .pure 1

theorem alikeOn_page (other : Text → Text → Program (List Fetched)) :
    AlikeOn Unwatched
      (pageWith (fun ns items => orWhenWatched (Imap.fetchMessages ns items) (other ns items))
        own below nameLimit numbers)
      (page own below nameLimit numbers) := by
  rw [← pageWith_fetchMessages]
  exact (alikeOn_pageFrom other).bind fun shown => (AlikeOn.refl fun _ hs => hs).bind fun _ => .pure shown

/-- **Signs of life within prompts.**  In whatever order the owner of a watch and the sender of its signs
take their steps, signs are sent between a start and the end of its cancel and only while the watch is
running, and none is sent behind one that failed, or behind a cancel that was completed, before the next
start; a watch that is idle has no sender.  While messages are shown one after the other, whatever the user
answers and whatever stops the prompts, no watch is live when a message is fetched, so that it does not
matter what a fetch would do then, nor is one live when the showing has ended. -/
theorem signs_within_prompts {moves : List Imap.Move} {w : Imap.Watching}
    (h : Imap.Watching.outset.run moves = some w) (own : Option Mailbox) (below : Option Text)
    (nameLimit : Int) (numbers : List Int) {s : Session} (hs : Unwatched s) :
    Imap.Watching.Confined moves ∧
    (∀ past rest, moves = past ++ .send :: rest → (Imap.KeepAlive.behind past).isRunning = true) ∧
    ((Imap.KeepAlive.behind moves).phase = .idle ↔ w.sender = .absent) ∧
    (∀ other : Text → Text → Program (List Fetched),
      (pageWith (fun ns items => orWhenWatched (Imap.fetchMessages ns items) (other ns items))
        own below nameLimit numbers).runIn s = (page own below nameLimit numbers).runIn s) ∧
    Unwatched ((page own below nameLimit numbers).runIn s).2 := by
  refine ⟨Imap.Watching.confined_run h, ?_, ?_, fun other => (alikeOn_page other s hs).1,
    (alikeOn_page Imap.fetchMessages s hs).2⟩
  · rintro past rest rfl
    exact Imap.isRunning_of_send h
  · rw [Imap.phase_run h, Imap.Watching.phase]
    cases w.sender <;> simp

/-- the flag is raised when the time of the sender is already up, so that one more sign goes out; the sign of
a second watch fails -/
def race : List Imap.Move :=
  [.start, .spawn, .look, .timeUp, .cancel, .send, .answered none, .look, .joined,
    .start, .spawn, .look, .timeUp, .send, .answered (some (.system "broken pipe")), .cancel, .joined]

/-- a user who takes time and then gives up at the question behind the first of two messages -/
def wavering : Session :=
  let message (digit : UInt8) : List FetchItem :=
    [.literal ([digit] ++ Text.toOctets " (FLAGS () BODY[] \x7b16\x7d")
      (Text.toOctets "Subject: a\r\n\r\nA"), .line [41]]
  { Session.quiet with
    imap := { Session.quiet.imap with messages := [message 49, message 50] }
    pauses := [1, 2] }

theorem signs_within_prompts_race :
    Imap.Watching.outset.run race = some ⟨.outside, .absent, true⟩ ∧ Unwatched wavering ∧
    Imap.Watching.Confined race ∧
    (∀ other : Text → Text → Program (List Fetched),
      (pageWith (fun ns items => orWhenWatched (Imap.fetchMessages ns items) (other ns items))
        none none 150 [2, 1]).runIn wavering = (page none none 150 [2, 1]).runIn wavering) ∧
    Unwatched ((page none none 150 [2, 1]).runIn wavering).2 ∧
    ((page none none 150 [2, 1]).runIn wavering).2.calls
      = [pageFetch 2, .noop, .ask pagePrompt, .noop, .noop] := by
  have hrun : Imap.Watching.outset.run race = some ⟨.outside, .absent, true⟩ := rfl
  have hidle : Unwatched wavering := rfl
  obtain ⟨hconfined, -, -, hfetch, hend⟩ := signs_within_prompts hrun none none 150 [2, 1] hidle
  exact ⟨hrun, hidle, hconfined, hfetch, hend, by decide +kernel⟩

end Client
end Mailroom
