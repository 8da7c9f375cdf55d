import Mailroom.Client.Read
import Mailroom.Proofs.Session.Runs

/-!
# The question between two messages

The user is asked until an answer is understood: an empty one goes on, `q` or `Q` ends the paging.  The
user takes time for every answer, and while a watch is running signs of life are sent; one that fails is
told, and it is the last one.

* `isQuit_iff`           the answers that end the paging;
* `isAccepted`           the answers that are understood;
* `IsInterlude`          questions with signs of life between them;
* `Session.Asked`        what questions do to a session, under a watch that may be running;
* `Session.Interlude`    what a question under a watch of its own does to a session;
* `runIn_question`, `runIn_question_of_none`   the question is repeated up to the first answer that is
  understood, and without one until the user is silent.
-/

namespace Mailroom

open Program

/-! ## answers -/

namespace Text

/-- no character beyond ASCII has the lower case `q` -/
theorem lowerRuns_ne_q : ∀ r ∈ lowerRuns,
    r.2.1 < 128 ∨ 113 < (r.1 : Int) + r.2.2.2 ∨ (r.2.1 : Int) + r.2.2.2 < 113 := by decide +kernel

theorem toLower_eq_q : ∀ n : Fin 128, (Char.ofNat n).toLower = 'q' → n = 81 ∨ n = 113 := by decide

theorem eq_of_ofNat_eq_q {n : Nat} (h : Char.ofNat n = 'q') : n = 113 := by
  by_cases hvalid : n.isValidChar
  · have hchar : Char.ofNat n = Char.ofNatAux n hvalid := dif_pos hvalid
    exact congrArg Char.toNat (hchar.symm.trans h)
  · have hzero : Char.ofNat n = Char.ofNat 0 := dif_neg hvalid
    cases hzero.symm.trans h

theorem lowerWide_ne_q {c : Char} (hc : 128 ≤ c.toNat) : lowerWide c ≠ 'q' := by
  intro h
  unfold lowerWide at h
  dsimp only at h
  split at h
  case h_1 first last step shift hfind =>
    have hrun := lowerRuns_ne_q _ (List.mem_of_find?_eq_some hfind)
    have hbounds := List.find?_some hfind
    simp only [Bool.and_eq_true, decide_eq_true_eq] at hbounds
    have hnat := eq_of_ofNat_eq_q h
    dsimp only at hrun hbounds
    omega
  case h_2 =>
    rw [h] at hc
    exact absurd hc (by decide)

theorem lowerChar_eq_q {c : Char} : lowerChar c = ['q'] ↔ c = 'q' ∨ c = 'Q' := by
  constructor
  · intro h
    unfold lowerChar at h
    split at h
    case isTrue hc =>
      have hlower : (Char.ofNat c.toNat).toLower = 'q' := by
        rw [Char.ofNat_toNat]
        exact List.cons.inj h |>.1
      have hcases := toLower_eq_q ⟨c.toNat, hc⟩ hlower
      rw [Fin.ext_iff, Fin.ext_iff] at hcases
      rcases hcases with hn | hn
      · exact .inr (by rw [← Char.ofNat_toNat c, show c.toNat = 81 from hn])
      · exact .inl (by rw [← Char.ofNat_toNat c, show c.toNat = 113 from hn])
    case isFalse hc =>
      split at h
      · cases h
      · exact absurd (List.cons.inj h).1 (lowerWide_ne_q (Nat.le_of_not_lt hc))
  · rintro (rfl | rfl) <;> decide

/-- no character is lost in lower case -/
theorem length_le_lowerFrom (past s : Text) : s.length ≤ (lowerFrom past s).length := by
  induction s generalizing past with
  | nil => exact Nat.zero_le _
  | cons c r ih =>
    have hrest := ih (c :: past)
    have hchar : 1 ≤ (lowerChar c).length := by
      unfold lowerChar
      split
      · exact Nat.le_refl _
      · split <;> simp
    rw [lowerFrom, List.length_append, List.length_cons]
    split
    · split <;> (rw [List.length_singleton]; omega)
    · omega

end Text

namespace Client

/-- the paging is ended by `q` in either case, and by nothing else -/
theorem isQuit_iff {a : Text} : isQuit a = true ↔ a = ['q'] ∨ a = ['Q'] := by
  unfold isQuit
  rw [beq_iff_eq]
  constructor
  · intro h
    have hlength := Text.length_le_lowerFrom [] a
    rw [show Text.lowerFrom [] a = "q".toList from h] at hlength
    rcases a with _ | ⟨c, _ | ⟨d, r⟩⟩
    · cases h
    · rw [Text.lower, Text.lowerFrom, Text.lowerFrom, List.append_nil] at h
      split at h
      · split at h <;> cases h
      · rcases Text.lowerChar_eq_q.1 h with rfl | rfl
        · exact .inl rfl
        · exact .inr rfl
    · rw [List.length_cons, List.length_cons] at hlength
      exact absurd hlength (by simp)
  · rintro (rfl | rfl) <;> decide

/-- an answer that is understood -/
def isAccepted (answer : Text) : Bool := answer.isEmpty || isQuit answer

/-- the calls of a time in which the user was asked: so many questions, with signs of life between them -/
def IsInterlude (asks : Nat) (cs : List Call) : Prop :=
  cs.filter (· ≠ .noop) = List.replicate asks (.ask pagePrompt)

theorem IsInterlude.append {m n : Nat} {cs ds : List Call} (hc : IsInterlude m cs)
    (hd : IsInterlude n ds) : IsInterlude (m + n) (cs ++ ds) := by
  unfold IsInterlude at *
  rw [List.filter_append, hc, hd, List.replicate_append_replicate]

end Client

/-! ## signs of life -/

namespace Imap.KeepAlive

variable {k : KeepAlive}

/-- what a watch printed: nothing, or once that a sign of life failed, and then it is over -/
def TellsOnce (k : KeepAlive) : Prop := k.output = [] ∨ k.isRunning = false ∧ ∃ f, k.output = report f

theorem output_timeUp (h : k.isRunning = true) (trouble : Option Fault) :
    (k.step (.timeUp trouble)).output = k.output ++ trouble.elim [] report := by
  cases trouble with
  | none => simp [step, h]
  | some f => simp [step, h]

theorem TellsOnce.timeUp (hk : k.TellsOnce) (h : k.isRunning = true) (trouble : Option Fault) :
    (k.step (.timeUp trouble)).TellsOnce := by
  have hsilent : k.output = [] := hk.resolve_right fun hover => by simp [h] at hover
  cases trouble with
  | none => exact .inl (by simp [step, h, hsilent])
  | some f =>
    have hstep : k.step (.timeUp (some f)) = ⟨.failed, k.signs + 1, k.output ++ report f⟩ := if_pos h
    rw [hstep, hsilent]
    exact .inr ⟨rfl, f, rfl⟩

end Imap.KeepAlive

/-- what questions do to a session: so many of them were asked and these answers were used up, and under
a watch that is running there were signs of life, one of which may have failed -/
structure Session.Asked (s : Session) (asks : Nat) (used : List Text) (t : Session) : Prop where
  rest : t = { s with
    answers := t.answers, pauses := t.pauses, watch := t.watch, calls := t.calls, output := t.output }
  answers : s.answers = used ++ t.answers
  calls : ∃ cs, t.calls = s.calls ++ cs ∧ Client.IsInterlude asks cs
  told : ∃ remark, t.output = s.output ++ remark ∧ t.watch.output = s.watch.output ++ remark
  once : s.watch.TellsOnce → t.watch.TellsOnce

namespace Session.Asked

variable {s t u : Session} {m n : Nat} {used used' : List Text}

theorem refl (s : Session) : s.Asked 0 [] s :=
  ⟨rfl, rfl, ⟨[], by simp, rfl⟩, ⟨[], by simp, by simp⟩, id⟩

theorem trans (h : s.Asked m used t) (h' : t.Asked n used' u) : s.Asked (m + n) (used ++ used') u := by
  obtain ⟨cs, hcs, hm⟩ := h.calls
  obtain ⟨ds, hds, hn⟩ := h'.calls
  obtain ⟨a, ha, hwatch⟩ := h.told
  obtain ⟨b, hb, hwatch'⟩ := h'.told
  constructor
  case rest =>
    rw [h'.rest, h.rest]
  case answers => rw [h.answers, h'.answers, List.append_assoc]
  case calls => exact ⟨cs ++ ds, by rw [hds, hcs, List.append_assoc], hm.append hn⟩
  case told =>
    exact ⟨a ++ b, by rw [hb, ha, List.append_assoc], by rw [hwatch', hwatch, List.append_assoc]⟩
  case once => exact h'.once ∘ h.once

/-- a question without an answer -/
theorem recorded (s : Session) :
    s.Asked 1 [] { s with calls := s.calls ++ [.ask Client.pagePrompt] } :=
  ⟨rfl, rfl, ⟨[.ask Client.pagePrompt], rfl, rfl⟩, ⟨[], by simp, by simp⟩, id⟩

theorem silence (h : s.Asked m used t) : t.silence = s.silence := by rw [h.rest]

end Session.Asked

namespace Imap

variable {s : Session}

/-- a sign of life asks nothing, and its failure is told -/
theorem asked_timeUp (s : Session) : ∃ t, timeUp.runIn s = (.ok (), t) ∧ s.Asked 0 [] t := by
  unfold timeUp
  rw [runIn_bind, runIn_session]
  dsimp only
  split
  case isFalse => exact ⟨s, rfl, .refl s⟩
  case isTrue hrunning =>
    have htold := KeepAlive.output_timeUp hrunning (s.imap.trouble (s.calls.count .noop))
    exact ⟨_, rfl, rfl, rfl, ⟨[.noop], rfl, rfl⟩, ⟨_, rfl, htold⟩, fun h => h.timeUp hrunning _⟩

/-- the user takes time, and the watch is running meanwhile -/
theorem asked_pause (s : Session) : ∃ t, pause.runIn s = (.ok (), t) ∧ s.Asked 0 [] t := by
  have hsigns : ∀ (ls : List Unit) (s : Session), ∃ t,
      (ls.forM fun _ => timeUp).runIn s = (.ok (), t) ∧ s.Asked 0 [] t := by
    intro ls
    induction ls with
    | nil => exact fun s => ⟨s, rfl, .refl s⟩
    | cons l ls ih =>
      intro s
      obtain ⟨t, hrun, ht⟩ := asked_timeUp s
      obtain ⟨u, hrest, hu⟩ := ih t
      refine ⟨u, ?_, ht.trans hu⟩
      show (timeUp >>= fun _ => ls.forM fun _ => timeUp).runIn s = _
      rw [runIn_bind, hrun]
      exact hrest
  unfold pause
  rw [runIn_bind, runIn_session]
  dsimp only
  cases hpauses : s.pauses with
  | nil => exact ⟨s, rfl, .refl s⟩
  | cons n rest =>
    obtain ⟨t, hrun, ht⟩ := hsigns (List.replicate n ()) { s with pauses := rest }
    refine ⟨t, ?_, ⟨?_, ht.answers, ht.calls, ht.told, ht.once⟩⟩
    · rw [runIn_bind, runIn_change]
      exact hrun
    · rw [ht.rest]

end Imap

namespace Client

/-! ## questions -/

variable {s : Session} {junk rest : List Text} {a : Text}

/-- a question is put on record, the user takes time, and then there is an answer or silence -/
theorem exists_runIn_ask (s : Session) : ∃ u, s.Asked 1 [] u ∧
    (ask pagePrompt).runIn s = match u.answers with
      | [] => (.error u.silence, u)
      | a :: rest => (.ok a, { u with answers := rest }) := by
  obtain ⟨u, hrun, hu⟩ := Imap.asked_pause { s with calls := s.calls ++ [.ask pagePrompt] }
  refine ⟨u, (Session.Asked.recorded s).trans hu, ?_⟩
  unfold ask record
  rw [runIn_bind, runIn_change]
  dsimp only
  rw [runIn_bind, hrun]
  dsimp only
  rw [runIn_bind, runIn_session]
  dsimp only
  cases u.answers <;> rfl

/-- a question uses up an answer -/
theorem runIn_ask (h : s.answers = a :: rest) :
    ∃ t, (ask pagePrompt).runIn s = (.ok a, t) ∧ s.Asked 1 [a] t := by
  obtain ⟨u, hu, hrun⟩ := exists_runIn_ask s
  have hleft : u.answers = a :: rest := hu.answers.symm.trans h
  rw [hleft] at hrun
  refine ⟨_, hrun, ?_, h, hu.calls, hu.told, hu.once⟩
  rw [hu.rest]

/-- behind the last answer the user is silent -/
theorem runIn_ask_of_nil (h : s.answers = []) :
    ∃ t, (ask pagePrompt).runIn s = (.error s.silence, t) ∧ s.Asked 1 [] t := by
  obtain ⟨u, hu, hrun⟩ := exists_runIn_ask s
  have hleft : u.answers = [] := hu.answers.symm.trans h
  rw [hleft, hu.silence] at hrun
  exact ⟨u, hrun, hu⟩

/-- the question is repeated up to the first answer that is understood -/
theorem runIn_wantsMore (hjunk : ∀ b ∈ junk, isAccepted b = false) (ha : isAccepted a = true)
    (h : s.answers = junk ++ a :: rest) {tries : Nat} (htries : junk.length < tries) :
    ∃ t, (wantsMore tries).runIn s = (.ok a.isEmpty, t) ∧ s.Asked (junk.length + 1) (junk ++ [a]) t := by
  -- an answer that is not understood is used up, and the question stands before the rest
  induction junk generalizing s tries with
  | nil =>
    obtain ⟨n, rfl⟩ := Nat.exists_eq_succ_of_ne_zero (Nat.pos_iff_ne_zero.1 htries)
    obtain ⟨t, hrun, ht⟩ := runIn_ask h
    refine ⟨t, ?_, ht⟩
    rw [wantsMore, runIn_bind, hrun]
    dsimp only
    cases hempty : a.isEmpty with
    | true =>
      rw [if_pos rfl]
      rfl
    | false =>
      rw [isAccepted, hempty, Bool.false_or] at ha
      rw [if_neg Bool.false_ne_true, if_pos ha]
      rfl
  | cons b junk ih =>
    obtain ⟨n, rfl⟩ := Nat.exists_eq_succ_of_ne_zero (Nat.pos_iff_ne_zero.1 (Nat.zero_lt_of_lt htries))
    obtain ⟨u, hrun, hu⟩ := runIn_ask h
    have hleft : u.answers = junk ++ a :: rest := List.append_cancel_left (hu.answers.symm.trans h)
    obtain ⟨t, hrest, ht⟩ := ih (fun c hc => hjunk c (List.mem_cons_of_mem _ hc)) hleft
      (Nat.lt_of_succ_lt_succ htries)
    refine ⟨t, ?_, ?_⟩
    · have hb := hjunk b List.mem_cons_self
      rw [isAccepted, Bool.or_eq_false_iff] at hb
      rw [wantsMore, runIn_bind, hrun]
      simp only [hb, Bool.false_eq_true, if_false]
      exact hrest
    · rw [List.length_cons, Nat.add_comm _ 1]
      exact hu.trans ht

/-- without an answer that is understood the question is repeated until the user is silent -/
theorem runIn_wantsMore_of_none (h : ∀ b ∈ s.answers, isAccepted b = false) {tries : Nat}
    (htries : s.answers.length < tries) :
    ∃ t, (wantsMore tries).runIn s = (.error s.silence, t) ∧
      s.Asked (s.answers.length + 1) s.answers t := by
  generalize hanswers : s.answers = answers at h htries
  induction answers generalizing s tries with
  | nil =>
    obtain ⟨n, rfl⟩ := Nat.exists_eq_succ_of_ne_zero (Nat.pos_iff_ne_zero.1 htries)
    obtain ⟨t, hrun, ht⟩ := runIn_ask_of_nil hanswers
    refine ⟨t, ?_, ht⟩
    rw [wantsMore, runIn_bind, hrun]
  | cons b answers ih =>
    obtain ⟨n, rfl⟩ := Nat.exists_eq_succ_of_ne_zero (Nat.pos_iff_ne_zero.1 (Nat.zero_lt_of_lt htries))
    obtain ⟨u, hrun, hu⟩ := runIn_ask hanswers
    have hleft : u.answers = answers := List.append_cancel_left (hu.answers.symm.trans hanswers)
    obtain ⟨t, hrest, ht⟩ := ih hleft (fun c hc => h c (List.mem_cons_of_mem _ hc))
      (Nat.lt_of_succ_lt_succ htries)
    refine ⟨t, ?_, ?_⟩
    · have hb := h b List.mem_cons_self
      rw [isAccepted, Bool.or_eq_false_iff] at hb
      rw [wantsMore, runIn_bind, hrun]
      simp only [hb, Bool.false_eq_true, if_false]
      rw [hrest, hu.silence]
    · rw [List.length_cons, Nat.add_comm _ 1]
      exact hu.trans ht

end Client

/-! ## under a watch -/

/-- what a watch tells: nothing, or that a sign of life failed -/
def Client.IsRemark (remark : Text) : Prop := remark = [] ∨ ∃ f, remark = Imap.KeepAlive.report f

/-- what questions under a watch of their own do to a session: so many of them were asked, these answers
were used up, and it may have been told that a sign of life failed -/
structure Session.Interlude (s : Session) (asks : Nat) (used : List Text) (t : Session) : Prop where
  rest : t = { s with
    answers := t.answers, pauses := t.pauses, watch := t.watch, calls := t.calls, output := t.output }
  answers : s.answers = used ++ t.answers
  calls : ∃ cs, t.calls = s.calls ++ cs ∧ Client.IsInterlude asks cs
  told : ∃ remark, t.output = s.output ++ remark ∧ Client.IsRemark remark

theorem Session.Interlude.refl (s : Session) : s.Interlude 0 [] s :=
  ⟨rfl, rfl, ⟨[], by simp, rfl⟩, ⟨[], by simp, .inl rfl⟩⟩

namespace Client

variable {s : Session} {junk rest used : List Text} {a : Text} {asks : Nat} {α : Type}

/-- a watch is new when the questions begin -/
theorem runIn_watched {body : Program α} {r : Except Fault α}
    (h : ∀ u, u.answers = s.answers → u.silence = s.silence →
      ∃ t, body.runIn u = (r, t) ∧ u.Asked asks used t) :
    ∃ t, (Imap.watched body).runIn s = (r, t) ∧ s.Interlude asks used t := by
  let started : Session := { s with watch := Imap.KeepAlive.new.step .start }
  obtain ⟨u, hpause, hu⟩ := Imap.asked_pause started
  obtain ⟨t, hbody, ht⟩ := h u hu.answers.symm hu.silence
  have hall : started.Asked (0 + asks) ([] ++ used) t := hu.trans ht
  rw [Nat.zero_add, List.nil_append] at hall
  refine ⟨{ t with watch := t.watch.step .cancel }, ?_, ?_, hall.answers, hall.calls, ?_⟩
  · unfold Imap.watched
    rw [runIn_bind, runIn_change]
    dsimp only
    rw [runIn_ensuring, runIn_bind, hpause]
    dsimp only
    rw [hbody]
    rfl
  · rw [hall.rest]
  · obtain ⟨remark, hremark, hwatch⟩ := hall.told
    have honce : t.watch.TellsOnce := hall.once (.inl rfl)
    rw [show started.watch.output = [] from rfl, List.nil_append] at hwatch
    exact ⟨remark, hremark, by rw [← hwatch]; exact honce.imp_right And.right⟩

/-- the question between two messages -/
def question (s : Session) : Program Bool := Imap.watched (wantsMore (s.answers.length + 1))

theorem runIn_question (hjunk : ∀ b ∈ junk, isAccepted b = false) (ha : isAccepted a = true)
    (h : s.answers = junk ++ a :: rest) :
    ∃ t, (question s).runIn s = (.ok a.isEmpty, t) ∧ s.Interlude (junk.length + 1) (junk ++ [a]) t := by
  refine runIn_watched fun u hanswers _ => runIn_wantsMore hjunk ha (hanswers.trans h) ?_
  rw [h, List.length_append]
  omega

theorem runIn_question_of_none (h : ∀ b ∈ s.answers, isAccepted b = false) :
    ∃ t, (question s).runIn s = (.error s.silence, t) ∧
      s.Interlude (s.answers.length + 1) s.answers t := by
  refine runIn_watched fun u hanswers hsilence => ?_
  rw [← hsilence, ← hanswers]
  rw [← hanswers] at h
  exact runIn_wantsMore_of_none h (Nat.lt_succ_self _)

/-- among some answers there is a first one that is understood, or none at all is -/
theorem exists_accepted (answers : List Text) :
    (∀ b ∈ answers, isAccepted b = false) ∨
    ∃ junk a rest, answers = junk ++ a :: rest ∧ (∀ b ∈ junk, isAccepted b = false) ∧
      isAccepted a = true := by
  induction answers with
  | nil => exact .inl nofun
  | cons b answers ih =>
    cases hb : isAccepted b with
    | true => exact .inr ⟨[], b, answers, rfl, nofun, hb⟩
    | false =>
      rcases ih with hnone | ⟨junk, a, rest, rfl, hjunk, ha⟩
      · exact .inl (List.forall_mem_cons.2 ⟨hb, hnone⟩)
      · exact .inr ⟨b :: junk, a, rest, rfl, List.forall_mem_cons.2 ⟨hb, hjunk⟩, ha⟩

end Client
end Mailroom
