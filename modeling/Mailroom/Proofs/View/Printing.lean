import Mailroom.Proofs.View.Saving

/-!
# What is printed when a message is shown

Showing a message prints its heading and its body, whether its parts are saved or not, and it changes
nothing but the output and the disk.

* `printed`              the text of a message, or why there is none;
* `Session.Prints`       only the disk was changed, and the output went on;
* `keeps_display`        however showing a message ends, this is what it does to a session;
* `runIn_display_eq_ok`  a message that is shown is printed;
* `runIn_display_none`   where nothing is saved, a message that can be printed is shown.
-/

namespace Mailroom

open Program

/-- lines as they are printed -/
def asLines (ls : List Text) : Text := ls.flatMap (· ++ ['\n'])

/-- nothing was changed but the disk, and the output went on -/
structure Session.Prints (s t : Session) : Prop where
  rest : t = { s with disk := t.disk, output := t.output }
  output : s.output <+: t.output

theorem Session.isFrame_prints : IsFrame Session.Prints where
  refl _ := ⟨rfl, List.prefix_rfl⟩
  trans h h' := ⟨by rw [h'.rest, h.rest], h.output.trans h'.output⟩

/-- nothing was changed but the disk -/
def Session.Writes (s t : Session) : Prop := t = { s with disk := t.disk }

theorem Session.isFrame_writes : IsFrame Session.Writes where
  refl _ := rfl
  trans {s t u} h h' := by
    unfold Session.Writes at *
    rw [h', h]

theorem Session.Writes.prints {s t : Session} (h : s.Writes t) : s.Prints t := by
  unfold Session.Writes at h
  rw [h]
  exact ⟨rfl, List.prefix_rfl⟩

namespace View

variable {zone : Zone} {f : Fetched} {position : Int} {own : Option Mailbox} {below : Option Text}
  {limit : Int} {s t : Session}

/-- what is printed when a message is shown, or why it cannot be shown -/
def printed (zone : Zone) (f : Fetched) (position : Int) (own : Option Mailbox) : Except Fault Text := do
  let above ← heading zone f position own
  let lines ← bodyLines f.message
  return asLines above ++ asLines lines

/-! ## what is left as it was -/

theorem keeps_save_writes (directory : Text) (m : Message) (spot : Spot) :
    Keeps Session.Writes (save directory m spot) := by
  have hR := Session.isFrame_writes
  refine Keeps.bind hR (Keeps.session hR) fun s => ?_
  dsimp only
  have hchange : ∀ disk, Keeps Session.Writes (change fun s => { s with disk }) := fun disk s => rfl
  refine Keeps.bind hR (hchange _) fun _ => Keeps.bind hR (Keeps.settle hR _) fun _ =>
    Keeps.bind hR (Keeps.settle hR _) fun _ => Keeps.bind hR (Keeps.settle hR _) fun _ =>
    Keeps.bind hR (Keeps.settle hR _) fun written => hchange written

theorem keeps_linesSaving_writes (directory : Option Text) (es : List (Except Fault Entry)) :
    Keeps Session.Writes (linesSaving directory es) :=
  keeps_linesSaving Session.isFrame_writes (fun _ _ => keeps_save_writes _) es

theorem keeps_printLines_prints (ls : List Text) : Keeps Session.Prints (printLines ls) :=
  Keeps.forM Session.isFrame_prints fun _ _ => ⟨rfl, List.prefix_append _ _⟩

/-- however showing a message ends, it changes nothing but the disk and the output -/
theorem keeps_display (f : Fetched) (position : Int) (own : Option Mailbox) (below : Option Text)
    (limit : Int) : Keeps Session.Prints (display f position own below limit) := by
  have hR := Session.isFrame_prints
  have hbody : ∀ directory, Keeps Session.Prints
      (linesSaving directory (bodyEntries f.message) >>= printLines) := fun directory =>
    Keeps.bind hR (fun s => (keeps_linesSaving_writes directory _ s).prints) keeps_printLines_prints
  refine Keeps.bind hR (Keeps.session hR) fun s => Keeps.bind hR (Keeps.settle hR _) fun ls =>
    Keeps.bind hR (keeps_printLines_prints ls) fun _ => ?_
  cases below with
  | none =>
    show Keeps Session.Prints (linesSaving none (bodyEntries f.message) >>= fun ls =>
      printLines ls >>= fun _ => pure none)
    rw [← bind_assoc]
    exact Keeps.bind hR (hbody none) fun _ => Keeps.pure hR _
  | some b =>
    refine Keeps.bind hR (Keeps.session hR) fun u => Keeps.bind hR (Keeps.settle hR _) fun id => ?_
    show Keeps Session.Prints (linesSaving (some (Path.join b id)) (bodyEntries f.message) >>= fun ls =>
      printLines ls >>= fun _ => session >>= fun _ => pure _)
    rw [← bind_assoc]
    exact Keeps.bind hR (hbody _) fun _ => Keeps.bind hR (Keeps.session hR) fun _ => Keeps.pure hR _

/-! ## the text -/

theorem runIn_printLines (ls : List Text) (s : Session) :
    (printLines ls).runIn s = (.ok (), { s with output := s.output ++ asLines ls }) := by
  induction ls generalizing s with
  | nil =>
    show (Except.ok (), s) = _
    rw [asLines, List.flatMap_nil, List.append_nil]
  | cons l ls ih =>
    show (printLine l >>= fun _ => printLines ls).runIn s = _
    have hline : (printLine l).runIn s = (.ok (), { s with output := s.output ++ (l ++ ['\n']) }) := rfl
    rw [runIn_bind, hline]
    dsimp only
    rw [ih, List.append_assoc]
    rfl

theorem linesSaving_none (es : List (Except Fault Entry)) :
    linesSaving none es = settle (linesOf es) := by
  induction es with
  | nil => rfl
  | cons e es ih =>
    cases e with
    | error f => rfl
    | ok entry =>
      rw [linesSaving, settle_ok, pure_bind, ih, linesOf_ok, settle_bind]
      rfl

/-- the lines of a body are made, whether its parts are saved or not -/
theorem linesOf_of_linesSaving {directory : Option Text} {es : List (Except Fault Entry)} {ls : List Text}
    (h : (linesSaving directory es).runIn s = (.ok ls, t)) : linesOf es = .ok ls := by
  cases directory with
  | none =>
    rw [linesSaving_none] at h
    exact (runIn_settle_eq_ok.1 h).1
  | some d => exact (runIn_linesSaving_eq_ok.1 h).2

/-- a message that is shown is printed, whatever is saved of it -/
theorem runIn_display_eq_ok {directory : Option Text}
    (h : (display f position own below limit).runIn s = (.ok directory, t)) :
    ∃ text, printed s.zone f position own = .ok text ∧ t.output = s.output ++ text := by
  obtain ⟨_, _, hsession, h⟩ := runIn_bind_eq_ok.1 h
  cases hsession
  obtain ⟨above, _, hsettled, h⟩ := runIn_bind_eq_ok.1 h
  obtain ⟨habove, rfl⟩ := runIn_settle_eq_ok.1 hsettled
  obtain ⟨_, u, hprint, h⟩ := runIn_bind_eq_ok.1 h
  rw [runIn_printLines] at hprint
  cases hprint
  have hbody : ∀ {directory ls v w}, (linesSaving directory (bodyEntries f.message)).runIn
      { s with output := s.output ++ asLines above } = (.ok ls, v) →
      (printLines ls).runIn v = (.ok (), w) →
      printed s.zone f position own = .ok (asLines above ++ asLines ls) ∧
        w.output = s.output ++ (asLines above ++ asLines ls) := by
    intro directory ls v w hlines hprint
    have hwrites := keeps_linesSaving_writes directory (bodyEntries f.message)
      { s with output := s.output ++ asLines above }
    rw [hlines] at hwrites
    have houtput : v.output = s.output ++ asLines above := by rw [show v = _ from hwrites]
    rw [runIn_printLines] at hprint
    cases hprint
    refine ⟨bind_eq_ok.2 ⟨above, habove, bind_eq_ok.2 ⟨ls, linesOf_of_linesSaving hlines, rfl⟩⟩, ?_⟩
    show v.output ++ asLines ls = _
    rw [houtput, List.append_assoc]
  cases below with
  | none =>
    obtain ⟨ls, v, hlines, h⟩ := runIn_bind_eq_ok.1 h
    obtain ⟨_, w, hprint, h⟩ := runIn_bind_eq_ok.1 h
    cases h
    exact ⟨_, hbody hlines hprint⟩
  | some b =>
    obtain ⟨_, _, hsession, h⟩ := runIn_bind_eq_ok.1 h
    cases hsession
    obtain ⟨id, _, hid, h⟩ := runIn_bind_eq_ok.1 h
    obtain ⟨-, rfl⟩ := runIn_settle_eq_ok.1 hid
    obtain ⟨ls, v, hlines, h⟩ := runIn_bind_eq_ok.1 h
    obtain ⟨_, w, hprint, h⟩ := runIn_bind_eq_ok.1 h
    obtain ⟨_, _, hsession, h⟩ := runIn_bind_eq_ok.1 h
    cases hsession
    cases h
    exact ⟨_, hbody hlines hprint⟩

/-- without a directory to save in, a message that can be printed is shown -/
theorem runIn_display_none {text : Text} (h : printed s.zone f position own = .ok text) :
    (display f position own none limit).runIn s = (.ok none, { s with output := s.output ++ text }) := by
  obtain ⟨above, habove, h⟩ := bind_eq_ok.1 h
  obtain ⟨lines, hlines, h⟩ := bind_eq_ok.1 h
  cases h
  have hbody : linesOf (bodyEntries f.message) = .ok lines := hlines
  unfold display
  rw [runIn_bind, runIn_session]
  dsimp only
  rw [habove, runIn_settle_bind]
  dsimp only
  rw [runIn_bind, runIn_printLines]
  dsimp only
  rw [linesSaving_none, hbody, runIn_settle_bind]
  dsimp only
  rw [runIn_bind, runIn_printLines, List.append_assoc]
  rfl

end View
end Mailroom
