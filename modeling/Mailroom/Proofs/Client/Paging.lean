import Mailroom.Proofs.Client.Asking
import Mailroom.Proofs.View.Faults
import Mailroom.Proofs.View.Printing

/-!
# Messages shown one after the other

Which messages are shown depends on the answers alone: the first one, and a further one for every answer
that goes on, up to an answer that ends the paging.  Every message is fetched and printed once, and the
question behind it is asked once for every answer up to one that is understood.

* `visited`, `questions`, `plan`   how many messages are shown, and how often is asked behind each;
* `Suffice`          the answers are enough;
* `Pages`            the calls and the text of messages that are shown one after the other;
* `PageFault`        what stops a message from being shown;
* `PagesEnd`         how the showing of a plan ends;
* `Showable`         messages that nothing stops;
* `paged_pageFrom`, `paged_page`   messages are shown by their plan.
-/

namespace Mailroom

open Program

namespace Client

/-! ## the plan -/

/-- how many of some messages are shown: the first one, and one for each answer that goes on, in front of
an answer that ends the paging -/
def visited (total : Nat) (answers : List Text) : Nat :=
  min total (1 + ((answers.filter isAccepted).takeWhile List.isEmpty).length)

/-- how often is asked behind each message: once for each answer up to one that is understood, and not at
all behind the last message -/
def questions (total : Nat) (answers : List Text) : List Nat :=
  ((answers.splitOnP isAccepted).map fun junk => junk.length + 1).take (total - 1) ++ [0]

/-- the messages that are shown, and how often is asked behind each -/
def plan (numbers : List Int) (answers : List Text) : List (Int × Nat) :=
  (numbers.take (visited numbers.length answers)).zip (questions numbers.length answers)

/-- the answers are enough: they lead to the last message, or one of them ends the paging -/
def Suffice (total : Nat) (answers : List Text) : Prop :=
  total ≤ (answers.filter isAccepted).length + 1 ∨ ∃ a ∈ answers, isQuit a = true

instance (total : Nat) (answers : List Text) : Decidable (Suffice total answers) :=
  inferInstanceAs (Decidable (_ ∨ _))

section
variable {n m : Int} {ns : List Int} {answers junk rest : List Text} {a : Text}

/-- among the answers that are understood, those that end the paging are the ones that are not empty -/
theorem isQuit_iff_of_accepted (h : isAccepted a = true) : isQuit a = true ↔ a.isEmpty = false := by
  constructor
  · intro hquit
    rcases isQuit_iff.1 hquit with rfl | rfl <;> rfl
  · intro hempty
    rwa [isAccepted, hempty, Bool.false_or] at h

theorem not_quit_of_junk (h : isAccepted a = false) : isQuit a = false := by
  rw [isAccepted, Bool.or_eq_false_iff] at h
  exact h.2

theorem filter_accepted (hjunk : ∀ b ∈ junk, isAccepted b = false) (ha : isAccepted a = true) :
    (junk ++ a :: rest).filter isAccepted = a :: rest.filter isAccepted := by
  rw [List.filter_append, List.filter_eq_nil_iff.2 fun b hb => by simp [hjunk b hb],
    List.filter_cons_of_pos ha, List.nil_append]

theorem plan_singleton (n : Int) (answers : List Text) : plan [n] answers = [(n, 0)] := by
  have hone : visited 1 answers = 1 := by
    unfold visited
    omega
  unfold plan
  rw [List.length_singleton, hone]
  rfl

theorem plan_of_none (h : ∀ b ∈ answers, isAccepted b = false) :
    plan (n :: m :: ns) answers = [(n, answers.length + 1)] := by
  have hone : visited (n :: m :: ns).length answers = 1 := by
    unfold visited
    rw [List.filter_eq_nil_iff.2 fun b hb => by simp [h b hb], List.takeWhile_nil, List.length_cons]
    exact Nat.min_eq_right (by simp)
  unfold plan questions
  rw [hone, List.splitOnP_eq_singleton h]
  rfl

theorem plan_of_accepted (hjunk : ∀ b ∈ junk, isAccepted b = false) (ha : isAccepted a = true) :
    plan (n :: m :: ns) (junk ++ a :: rest)
      = (n, junk.length + 1) :: if a.isEmpty then plan (m :: ns) rest else [] := by
  have hquestions : questions (n :: m :: ns).length (junk ++ a :: rest)
      = (junk.length + 1) :: questions (m :: ns).length rest := by
    unfold questions
    rw [List.splitOnP_append_cons_of_forall_mem hjunk a ha]
    rfl
  have hvisited : visited (n :: m :: ns).length (junk ++ a :: rest)
      = if a.isEmpty then visited (m :: ns).length rest + 1 else 1 := by
    unfold visited
    rw [filter_accepted hjunk ha, List.takeWhile_cons]
    split
    · simp only [List.length_cons]
      omega
    · simp
  unfold plan
  rw [hvisited, hquestions]
  split
  · rfl
  · rfl

theorem suffice_one (answers : List Text) : Suffice 1 answers := .inl (Nat.le_add_left 1 _)

theorem not_suffice_of_none {k : Nat} (h : ∀ b ∈ answers, isAccepted b = false) :
    ¬Suffice (k + 2) answers := by
  rintro (hle | ⟨b, hb, hquit⟩)
  · rw [List.filter_eq_nil_iff.2 fun b hb => by simp [h b hb]] at hle
    exact absurd hle (by simp)
  · exact Bool.false_ne_true ((not_quit_of_junk (h b hb)).symm.trans hquit)

theorem suffice_of_accepted {k : Nat} (hjunk : ∀ b ∈ junk, isAccepted b = false)
    (ha : isAccepted a = true) :
    Suffice (k + 2) (junk ++ a :: rest) ↔ (a.isEmpty = true → Suffice (k + 1) rest) := by
  unfold Suffice
  rw [filter_accepted hjunk ha, List.length_cons]
  constructor
  · rintro (hle | ⟨b, hb, hquit⟩) hempty
    · exact .inl (by omega)
    · rcases List.mem_append.1 hb with hb | hb
      · exact absurd ((not_quit_of_junk (hjunk b hb)).symm.trans hquit) Bool.false_ne_true
      · rcases List.mem_cons.1 hb with rfl | hb
        · exact absurd (((isQuit_iff_of_accepted ha).1 hquit).symm.trans hempty) Bool.false_ne_true
        · exact .inr ⟨b, hb, hquit⟩
  · intro h
    cases hempty : a.isEmpty with
    | true =>
      rcases h hempty with hle | ⟨b, hb, hquit⟩
      · exact .inl (by omega)
      · exact .inr ⟨b, List.mem_append_right _ (List.mem_cons_of_mem _ hb), hquit⟩
    | false =>
      exact .inr ⟨a, List.mem_append_right _ List.mem_cons_self, (isQuit_iff_of_accepted ha).2 hempty⟩

theorem length_splitOnP (answers : List Text) :
    (answers.splitOnP isAccepted).length = (answers.filter isAccepted).length + 1 := by
  induction answers with
  | nil => rfl
  | cons a answers ih =>
    rw [List.splitOnP_cons_eq_if_modifyHead, List.filter_cons]
    split
    · rw [List.length_cons, List.length_cons, ih]
    · rw [List.length_modifyHead, ih]

/-- the messages of a plan are the first ones -/
theorem map_fst_plan (numbers : List Int) (answers : List Text) :
    (plan numbers answers).map Prod.fst = numbers.take (visited numbers.length answers) := by
  have hempty := ((answers.filter isAccepted).takeWhile_sublist List.isEmpty).length_le
  refine List.map_fst_zip ?_
  unfold questions visited
  rw [List.length_append, List.length_take, List.length_take, List.length_map, length_splitOnP,
    List.length_singleton]
  omega

theorem length_plan (numbers : List Int) (answers : List Text) :
    (plan numbers answers).length = visited numbers.length answers := by
  have hlength := congrArg List.length (map_fst_plan numbers answers)
  rw [List.length_map, List.length_take] at hlength
  have hle : visited numbers.length answers ≤ numbers.length := Nat.min_le_left _ _
  omega

/-- the first message is always shown -/
theorem exists_plan_cons (n : Int) (ns : List Int) (answers : List Text) :
    ∃ asks rest, plan (n :: ns) answers = (n, asks) :: rest := by
  cases ns with
  | nil => exact ⟨0, [], plan_singleton n answers⟩
  | cons m ns =>
    rcases exists_accepted answers with hnone | ⟨junk, a, rest, rfl, hjunk, ha⟩
    · exact ⟨_, _, plan_of_none hnone⟩
    · exact ⟨_, _, plan_of_accepted hjunk ha⟩

end

/-! ## pages -/

/-- the fetch of one message -/
def pageFetch (n : Int) : Call := .fetch (Text.decimalInt n) Imap.wholeItems

/-- what is printed behind a message, if there are more than one -/
def footer (total position : Nat) : Text :=
  if total ≤ 1 then []
  else asLines [View.rule]
    ++ ("==> Showing message [" ++ Text.decimal position ++ "/" ++ Text.decimal total ++ "] ")
    ++ (if position = total then ['\n'] else [])

/-- how the showing of a message ends in a session that goes on from `s` and has this disk, and the disk
behind it -/
def DisplayedOn (s : Session) (own : Option Mailbox) (below : Option Text) (limit : Int) (position : Nat)
    (f : Fetched) (d : Disk) (r : Except Fault (Option Text)) (d' : Disk) : Prop :=
  ∃ u v, s.Follows u ∧ u.disk = d ∧ (View.display f position own below limit).runIn u = (r, v) ∧ v.disk = d'

/-- messages shown one after the other from a position on, each with the number of questions behind it:
the calls that this takes, what is printed meanwhile, and what becomes of the disk -/
inductive Pages (s : Session) (own : Option Mailbox) (below : Option Text) (limit : Int) (total : Nat) :
    Nat → List (Int × Nat) → Disk → List Call → Text → Disk → Prop
  | nil {position : Nat} {d : Disk} : Pages s own below limit total position [] d [] [] d
  | cons {position : Nat} {n : Int} {asks : Nat} {f : Fetched} {fs : List Fetched} {directory : Option Text}
      {text remark out : Text} {asked cs : List Call} {ps : List (Int × Nat)} {d d₁ d₂ : Disk}
      (hfetched : s.messagesAt (Text.decimalInt n) = .ok (f :: fs))
      (hshown : DisplayedOn s own below limit position f d (.ok directory) d₁)
      (hprinted : View.printed s.zone f position own = .ok text)
      (hasked : IsInterlude asks asked) (hremark : IsRemark remark)
      (rest : Pages s own below limit total (position + 1) ps d₁ cs out d₂) :
      Pages s own below limit total position ((n, asks) :: ps) d (pageFetch n :: asked ++ cs)
        (text ++ footer total position ++ remark ++ out) d₂

/-- what stops a message from being shown -/
inductive PageFault (s : Session) (own : Option Mailbox) (below : Option Text) (limit : Int)
    (position : Nat) (n : Int) (d : Disk) : Fault → Prop
  /-- the answer to its fetch cannot be read -/
  | fetch {e : Fault} (h : s.messagesAt (Text.decimalInt n) = .error e) :
      PageFault s own below limit position n d e
  /-- the answer to its fetch holds no message -/
  | missing (h : s.messagesAt (Text.decimalInt n) = .ok []) :
      PageFault s own below limit position n d .noSuchItem
  /-- it came, and cannot be shown -/
  | display {f : Fetched} {fs : List Fetched} {e : Fault} {d' : Disk}
      (hfetched : s.messagesAt (Text.decimalInt n) = .ok (f :: fs))
      (h : DisplayedOn s own below limit position f d (.error e) d') :
      PageFault s own below limit position n d e

/-- how the showing of a plan ends, on the disk behind the messages that were shown: how many these are,
what was asked of the server for a further one, what was printed at last, and the result.  Either the whole
plan is shown, and the user falls silent behind it if the answers are not enough, or a message stops it -/
inductive PagesEnd (s : Session) (own : Option Mailbox) (below : Option Text) (limit : Int)
    (closing : Text) (position : Nat) (ps : List (Int × Nat)) (enough : Prop) (d : Disk) :
    Nat → List Call → Text → Except Fault Nat → Prop
  | shown (h : enough) :
      PagesEnd s own below limit closing position ps enough d ps.length [] closing (.ok ps.length)
  | silent (h : ¬enough) :
      PagesEnd s own below limit closing position ps enough d ps.length [] [] (.error s.silence)
  | stopped {k : Nat} {n : Int} {asks : Nat} {rest : Text} {e : Fault} (hn : ps[k]? = some (n, asks))
      (h : PageFault s own below limit (position + k) n d e) :
      PagesEnd s own below limit closing position ps enough d k [pageFetch n] rest (.error e)

/-- a session in which a plan was followed since another one, and how that ended -/
structure Paged (s₀ s : Session) (own : Option Mailbox) (below : Option Text) (limit : Int)
    (closing : Text) (total position : Nat) (ps : List (Int × Nat)) (enough : Prop)
    (r : Except Fault Nat) (t : Session) : Prop where
  rest : t = { s with
    disk := t.disk, answers := t.answers, pauses := t.pauses, watch := t.watch, calls := t.calls,
    output := t.output }
  pages : ∃ k d cs out further last,
    Pages s₀ own below limit total position (ps.take k) s.disk cs out d ∧
    PagesEnd s₀ own below limit closing position ps enough d k further last r ∧
    t.calls = s.calls ++ (cs ++ further) ∧ t.output = s.output ++ (out ++ last)

/-- messages can be fetched and shown one after the other from a position on, beginning with this disk -/
inductive Showable (s : Session) (own : Option Mailbox) (below : Option Text) (limit : Int) :
    Nat → List Int → Disk → Prop
  | nil {position : Nat} {d : Disk} : Showable s own below limit position [] d
  | cons {position : Nat} {n : Int} {ns : List Int} {f : Fetched} {fs : List Fetched} {d d₁ : Disk}
      (hfetched : s.messagesAt (Text.decimalInt n) = .ok (f :: fs))
      (hshown : ∀ r d', DisplayedOn s own below limit position f d r d' →
        (∃ directory, r = .ok directory) ∧ d' = d₁)
      (rest : Showable s own below limit (position + 1) ns d₁) :
      Showable s own below limit position (n :: ns) d

section
variable {s : Session} {own : Option Mailbox} {below : Option Text} {limit : Int} {total position : Nat}
  {ps : List (Int × Nat)} {d d' : Disk} {cs : List Call} {out : Text}

/-- messages that can be shown are not stopped -/
theorem Showable.not_pageFault (h : Showable s own below limit position (ps.map Prod.fst) d) {k : Nat}
    (hpages : Pages s own below limit total position (ps.take k) d cs out d') {n : Int} {asks : Nat}
    (hn : ps[k]? = some (n, asks)) (e : Fault) : ¬PageFault s own below limit (position + k) n d' e := by
  -- the disk that the messages before leave is the one on which this message can be shown
  induction k generalizing ps position d cs out with
  | zero =>
    rw [List.take_zero] at hpages
    cases hpages
    obtain ⟨rest, rfl⟩ := List.head?_eq_some_iff.1 (List.head?_eq_getElem? ▸ hn)
    cases h with
    | cons hfetched hshown _ =>
      intro hfault
      cases hfault with
      | fetch h => cases hfetched.symm.trans h
      | missing h => cases hfetched.symm.trans h
      | display h hdisplayed =>
        cases hfetched.symm.trans h
        obtain ⟨⟨_, hok⟩, -⟩ := hshown _ _ hdisplayed
        cases hok
  | succ k ih =>
    rcases ps with _ | ⟨p, ps⟩
    · cases hn
    rw [List.take_succ_cons] at hpages
    cases h with
    | cons hfetched hshown hrest =>
      cases hpages with
      | cons hfetched' hshown' _ _ _ hpages =>
        cases hfetched.symm.trans hfetched'
        obtain ⟨-, rfl⟩ := hshown _ _ hshown'
        rw [show position + (k + 1) = position + 1 + k by omega]
        exact ih hrest hpages hn

/-- whether a message can be fetched and printed -/
def isPrintable (s : Session) (own : Option Mailbox) (position : Nat) (n : Int) : Bool :=
  match s.messagesAt (Text.decimalInt n) with
  | .ok (f :: _) => (View.printed s.zone f position own).toOption.isSome
  | _ => false

/-- where nothing is saved, messages can be shown that can be printed -/
theorem showable_of_isPrintable {ns : List Int}
    (h : ∀ p ∈ ns.zipIdx position, isPrintable s own p.2 p.1 = true) :
    Showable s own none limit position ns d := by
  induction ns generalizing position with
  | nil => exact .nil
  | cons n ns ih =>
    rw [List.zipIdx_cons, List.forall_mem_cons] at h
    obtain ⟨hn, hns⟩ := h
    unfold isPrintable at hn
    split at hn
    case h_2 => cases hn
    case h_1 f fs hfetched =>
      refine .cons hfetched ?_ (ih hns)
      rintro r d' ⟨u, v, hu, rfl, hrun, rfl⟩
      rw [← hu.zone] at hn
      cases hprinted : View.printed u.zone f position own with
      | error e =>
        rw [hprinted] at hn
        cases hn
      | ok text =>
        rw [View.runIn_display_none hprinted] at hrun
        cases hrun
        exact ⟨⟨none, rfl⟩, rfl⟩

end

/-! ## runs -/

section
variable {s₀ s t u : Session} {own : Option Mailbox} {below : Option Text} {limit : Int} {closing : Text}
  {total position : Nat} {n : Int} {ns : List Int}

/-- what comes behind a message that is shown -/
def behindPage (own : Option Mailbox) (below : Option Text) (limit : Int) (total position : Nat)
    (ns : List Int) : Program Nat := do
  if total ≤ 1 then return 1 + (← pageFrom own below limit total (position + 1) ns)
  else
    printLine View.rule
    print ("==> Showing message [" ++ Text.decimal position ++ "/" ++ Text.decimal total ++ "] ")
    if position = total then
      printLine []
      return 1
    else if ← question (← session) then
      return 1 + (← pageFrom own below limit total (position + 1) ns)
    else return 1

theorem runIn_pageFrom_cons (s : Session) :
    (pageFrom own below limit total position (n :: ns)).runIn s
      = match s.messagesAt (Text.decimalInt n) with
        | .error e => (.error e, { s with calls := s.calls ++ [pageFetch n] })
        | .ok [] => (.error .noSuchItem, { s with calls := s.calls ++ [pageFetch n] })
        | .ok (f :: _) =>
          match (View.display f position own below limit).runIn
              { s with calls := s.calls ++ [pageFetch n] } with
          | (.error e, u) => (.error e, u)
          | (.ok _, u) => (behindPage own below limit total position ns).runIn u := by
  rw [pageFrom, runIn_bind, Imap.runIn_fetchMessages]
  unfold Session.messagesAt
  cases s.imap.fetched (Text.decimalInt n) >>= Imap.messagesOf s.zone (Text.decimalInt n) with
  | error e => rfl
  | ok fs =>
    cases fs with
    | nil => rfl
    | cons f fs =>
      dsimp only
      rw [runIn_bind]
      unfold pageFetch
      cases (View.display f position own below limit).runIn _ with
      | mk r u => cases r <;> rfl

/-- the line behind a message tells which one it was, and then the user is asked, unless it was the last
one -/
theorem runIn_behindPage (s : Session) :
    (behindPage own below limit total position ns).runIn s
      = if total ≤ 1 then (pageFrom own below limit total (position + 1) ns >>= fun k =>
            pure (1 + k) : Program Nat).runIn s
        else if position = total then (.ok 1, { s with output := s.output ++ footer total position })
        else match (question s).runIn { s with output := s.output ++ footer total position } with
          | (.error e, u) => (.error e, u)
          | (.ok true, u) => (pageFrom own below limit total (position + 1) ns >>= fun k =>
              pure (1 + k) : Program Nat).runIn u
          | (.ok false, u) => (.ok 1, u) := by
  unfold behindPage footer
  by_cases hone : total ≤ 1
  · rw [if_pos hone, if_pos hone]
  rw [if_neg hone, if_neg hone, if_neg hone]
  have hprinted : ∀ k : Program Nat, (do
      printLine View.rule
      print ("==> Showing message [" ++ Text.decimal position ++ "/" ++ Text.decimal total ++ "] ")
      k).runIn s = k.runIn { s with output := s.output ++ (asLines [View.rule]
        ++ ("==> Showing message [" ++ Text.decimal position ++ "/" ++ Text.decimal total ++ "] ")) } := by
    intro k
    rw [asLines, List.flatMap_cons, List.flatMap_nil, List.append_nil, ← List.append_assoc]
    rfl
  rw [hprinted]
  by_cases hlast : position = total
  · rw [if_pos hlast, if_pos hlast, if_pos hlast]
    generalize asLines [View.rule] ++ _ = line
    rw [← List.append_assoc s.output line]
    rfl
  · rw [if_neg hlast, if_neg hlast, if_neg hlast, List.append_nil, runIn_bind, runIn_session]
    dsimp only
    rw [runIn_bind]
    unfold question
    cases (Imap.watched (wantsMore (s.answers.length + 1))).runIn _ with
    | mk r u =>
      rcases r with e | _ | _
      · rfl
      · rfl
      · rfl

/-- one message was fetched and shown, and then so many questions used up these answers -/
structure Shown (s₀ s : Session) (own : Option Mailbox) (below : Option Text) (limit : Int)
    (total position : Nat) (n : Int) (asks : Nat) (used : List Text) (t : Session) : Prop where
  rest : t = { s with
    disk := t.disk, answers := t.answers, pauses := t.pauses, watch := t.watch, calls := t.calls,
    output := t.output }
  follows : s₀.Follows t
  answers : s.answers = used ++ t.answers
  page : ∃ f fs directory text remark asked, s₀.messagesAt (Text.decimalInt n) = .ok (f :: fs) ∧
    DisplayedOn s₀ own below limit position f s.disk (.ok directory) t.disk ∧
    View.printed s₀.zone f position own = .ok text ∧ IsInterlude asks asked ∧ IsRemark remark ∧
    t.calls = s.calls ++ (pageFetch n :: asked) ∧
    t.output = s.output ++ (text ++ footer total position ++ remark)

theorem follows_display {f : Fetched} (hs : s₀.Follows s) :
    s₀.Follows ((View.display f position own below limit).runIn s).2 :=
  (View.ends_display (P := fun _ => True) (fun _ _ => trivial) (fun _ _ => trivial) s hs).1

theorem shown_of_display (hs : s₀.Follows s) {f : Fetched} {fs : List Fetched}
    (hfetched : s₀.messagesAt (Text.decimalInt n) = .ok (f :: fs)) {directory : Option Text}
    (hdisplay : (View.display f position own below limit).runIn
      { s with calls := s.calls ++ [pageFetch n] } = (.ok directory, u)) {asks : Nat} {used : List Text}
    (hasked : Session.Interlude { u with output := u.output ++ footer total position } asks used t) :
    Shown s₀ s own below limit total position n asks used t := by
  have hcalls : s₀.Follows { s with calls := s.calls ++ [pageFetch n] } :=
    (Session.Follows.isOpen s₀).calls s _ hs
  -- showing changes the disk and the output, asking the answers and the calls
  obtain ⟨text, hprinted, houtput⟩ := View.runIn_display_eq_ok hdisplay
  have hfollows : s₀.Follows ((View.display f position own below limit).runIn
      { s with calls := s.calls ++ [pageFetch n] }).2 := follows_display hcalls
  have hprints := View.keeps_display f position own below limit { s with calls := s.calls ++ [pageFetch n] }
  rw [hdisplay] at hprints hfollows
  have hrest : u = { s with disk := u.disk, calls := s.calls ++ [pageFetch n], output := u.output } :=
    hprints.rest
  have hdisk : u.disk = t.disk := by rw [hasked.rest]
  obtain ⟨asked, hask, hinterlude⟩ := hasked.calls
  obtain ⟨remark, hremark, hisRemark⟩ := hasked.told
  constructor
  case rest =>
    rw [hasked.rest, hrest]
  case follows =>
    rw [hasked.rest]
    exact ⟨hfollows.zone, hfollows.home, hfollows.serial, hfollows.silence, hfollows.imap, hfollows.answers⟩
  case answers =>
    rw [← hasked.answers, hrest]
  case page =>
    rw [show Session.zone _ = s₀.zone from hs.zone] at hprinted
    refine ⟨f, fs, directory, text, remark, asked, hfetched, ⟨_, u, hcalls, rfl, hdisplay, hdisk⟩, hprinted,
      hinterlude, hisRemark, ?_, ?_⟩
    · rw [hask, hrest]
      exact List.append_assoc _ [pageFetch n] asked
    · rw [hremark, houtput]
      simp only [List.append_assoc]

theorem PagesEnd.cons {ps : List (Int × Nat)} {enough : Prop} {d : Disk} {k : Nat} {further : List Call}
    {last : Text} {r : Except Fault Nat} (p : Int × Nat)
    (h : PagesEnd s₀ own below limit closing (position + 1) ps enough d k further last r) :
    PagesEnd s₀ own below limit closing position (p :: ps) enough d (k + 1) further last
      (r.map (1 + ·)) := by
  cases h with
  | shown h =>
    have hcount : (Except.ok ps.length).map (1 + ·) = (.ok (p :: ps).length : Except Fault Nat) :=
      congrArg Except.ok (Nat.add_comm 1 _)
    rw [hcount]
    exact .shown h
  | silent h => exact .silent h
  | stopped hn h =>
    rw [Nat.add_right_comm] at h
    exact .stopped hn h

theorem Paged.nil {enough : Prop} {r : Except Fault Nat}
    (h : PagesEnd s₀ own below limit [] position [] enough s.disk 0 [] [] r) :
    Paged s₀ s own below limit [] total position [] enough r s :=
  ⟨rfl, 0, s.disk, [], [], [], [], .nil, h, (List.append_nil _).symm, (List.append_nil _).symm⟩

/-- a message was shown, and then the rest of the plan was followed -/
theorem Shown.paged {asks : Nat} {used : List Text}
    (h : Shown s₀ s own below limit total position n asks used u) {ps : List (Int × Nat)} {enough : Prop}
    {r : Except Fault Nat}
    (hrest : Paged s₀ u own below limit closing total (position + 1) ps enough r t) :
    Paged s₀ s own below limit closing total position ((n, asks) :: ps) enough (r.map (1 + ·)) t := by
  obtain ⟨f, fs, directory, text, remark, asked, hfetched, hshown, hprinted, hasked, hremark, hcalls,
    houtput⟩ := h.page
  obtain ⟨k, d, cs, out, further, last, hpages, hend, hcalls', houtput'⟩ := hrest.pages
  constructor
  case rest => rw [hrest.rest, h.rest]
  case pages =>
    refine ⟨k + 1, d, _, _, further, last, .cons hfetched hshown hprinted hasked hremark hpages,
      hend.cons _, ?_, ?_⟩
    · rw [hcalls', hcalls]
      simp only [List.append_assoc, List.cons_append]
    · rw [houtput', houtput]
      simp only [List.append_assoc]

theorem paged_of_fault {ps : List (Int × Nat)} {enough : Prop} {e : Fault} {asks : Nat}
    (he : PageFault s₀ own below limit position n s.disk e)
    (hprints : Session.Prints { s with calls := s.calls ++ [pageFetch n] } t) :
    Paged s₀ s own below limit closing total position ((n, asks) :: ps) enough (.error e) t := by
  obtain ⟨last, hlast⟩ := hprints.output
  constructor
  case rest => rw [hprints.rest]
  case pages =>
    refine ⟨0, s.disk, [], [], [pageFetch n], last, .nil, .stopped rfl he, ?_, hlast.symm⟩
    rw [hprints.rest]
    rfl

theorem runIn_behindPage_last (h : position = total) (s : Session) :
    (behindPage own below limit total position []).runIn s
      = (.ok 1, { s with output := s.output ++ footer total position }) := by
  rw [runIn_behindPage, if_pos h]
  split
  case isTrue hone =>
    rw [footer, if_pos hone, List.append_nil]
    rfl
  case isFalse => rfl

/-- without an answer that is understood, a message that was shown is the last one -/
theorem Shown.paged_silent {m : Int} (hnone : ∀ b ∈ s.answers, isAccepted b = false)
    (h : Shown s₀ s own below limit total position n (s.answers.length + 1) s.answers t) :
    Paged s₀ s own below limit [] total position (plan (n :: m :: ns) s.answers)
      (Suffice (n :: m :: ns).length s.answers) (.error s₀.silence) t := by
  rw [plan_of_none hnone]
  have hsilent : Paged s₀ t own below limit [] total (position + 1) []
      (Suffice (n :: m :: ns).length s.answers) (.error s₀.silence) t :=
    Paged.nil (.silent (not_suffice_of_none hnone))
  exact h.paged hsilent

section
variable {m : Int} {junk rest : List Text} {a : Text} (hsplit : s.answers = junk ++ a :: rest)
  (hjunk : ∀ b ∈ junk, isAccepted b = false) (ha : isAccepted a = true)
  (hshown : Shown s₀ s own below limit total position n (junk.length + 1) (junk ++ [a]) u)
include hsplit hjunk ha hshown

/-- so is one behind which the first answer that is understood asks for no more -/
theorem Shown.paged_quit (hquit : a.isEmpty = false) :
    Paged s₀ s own below limit [] total position (plan (n :: m :: ns) s.answers)
      (Suffice (n :: m :: ns).length s.answers) (.ok 1) u := by
  have hplan : plan (n :: m :: ns) (junk ++ a :: rest) = _ := plan_of_accepted hjunk ha
  rw [hsplit, hplan, if_neg (Bool.eq_false_iff.1 hquit)]
  have henough : Suffice (n :: m :: ns).length (junk ++ a :: rest) :=
    (suffice_of_accepted hjunk ha).2 fun hempty => absurd (hquit.symm.trans hempty) Bool.false_ne_true
  exact hshown.paged (Paged.nil (.shown henough))

/-- where it asks for more, the rest is shown by the plan that the answers left over make -/
theorem Shown.paged_further (hempty : a.isEmpty = true) {r : Except Fault Nat}
    (hrest : Paged s₀ u own below limit [] total (position + 1) (plan (m :: ns) u.answers)
      (Suffice (m :: ns).length u.answers) r t) :
    Paged s₀ s own below limit [] total position (plan (n :: m :: ns) s.answers)
      (Suffice (n :: m :: ns).length s.answers) (r.map (1 + ·)) t := by
  -- the question used up the answers up to the first one that is understood
  have hleft : u.answers = rest := by
    have hused := hshown.answers.symm.trans hsplit
    rw [List.append_assoc] at hused
    exact List.append_cancel_left (List.append_cancel_left hused)
  have hplan : plan (n :: m :: ns) (junk ++ a :: rest) = _ := plan_of_accepted hjunk ha
  have henough : Suffice (ns.length + 2) (junk ++ a :: rest) ↔ _ := suffice_of_accepted hjunk ha
  rw [hleft] at hrest
  rw [hsplit, hplan, show (n :: m :: ns).length = ns.length + 2 from rfl, henough, if_pos hempty,
    forall_prop_of_true hempty]
  exact hshown.paged hrest

end

/-- behind a message that was shown, the rest is shown by the plan that the answers make -/
theorem paged_behindPage (hone : 1 ≤ position) (hposition : position + ns.length = total)
    (hanswers : u.answers = s.answers) (hsilence : u.silence = s₀.silence)
    (hshown : ∀ asks used v, Session.Interlude { u with output := u.output ++ footer total position } asks
      used v → Shown s₀ s own below limit total position n asks used v)
    (hrest : ∀ v r t, s₀.Follows v →
      (pageFrom own below limit total (position + 1) ns).runIn v = (r, t) →
      Paged s₀ v own below limit [] total (position + 1) (plan ns v.answers)
        (Suffice ns.length v.answers) r t) {r : Except Fault Nat}
    (h : (behindPage own below limit total position ns).runIn u = (r, t)) :
    Paged s₀ s own below limit [] total position (plan (n :: ns) s.answers)
      (Suffice (n :: ns).length s.answers) r t := by
  -- behind the last message nothing is asked, and in front of it the answers decide
  rcases ns with _ | ⟨m, ns⟩
  · have hlast : position = total := hposition
    rw [runIn_behindPage_last hlast] at h
    cases h
    rw [plan_singleton]
    exact (hshown 0 [] _ (.refl _)).paged (Paged.nil (.shown (suffice_one _)))
  have hmany : ¬total ≤ 1 := by
    rw [List.length_cons] at hposition
    omega
  have hearly : position ≠ total := by
    rw [List.length_cons] at hposition
    omega
  rw [runIn_behindPage, if_neg hmany, if_neg hearly] at h
  let told : Session := { u with output := u.output ++ footer total position }
  rcases exists_accepted s.answers with hnone | ⟨junk, a, rest, hsplit, hjunk, ha⟩
  · obtain ⟨v, hrun, hv⟩ := runIn_question_of_none (s := told) (fun b hb => hnone b (hanswers ▸ hb))
    rw [show question u = question told from rfl, hrun] at h
    cases h
    rw [show told.answers = s.answers from hanswers] at hv
    rw [show told.silence = s₀.silence from hsilence]
    exact (hshown _ _ t hv).paged_silent hnone
  · obtain ⟨v, hrun, hv⟩ := runIn_question (s := told) hjunk ha (hanswers.trans hsplit)
    rw [show question u = question told from rfl, hrun] at h
    have hshown := hshown _ _ v hv
    cases hempty : a.isEmpty with
    | true =>
      rw [hempty] at h
      dsimp only at h
      rw [runIn_bind_pure] at h
      cases htail : (pageFrom own below limit total (position + 1) (m :: ns)).runIn v with
      | mk r' t' =>
        rw [htail] at h
        cases h
        exact hshown.paged_further hsplit hjunk ha hempty (hrest v r' t' hshown.follows htail)
    | false =>
      rw [hempty] at h
      cases h
      exact hshown.paged_quit hsplit hjunk ha hempty

/-- messages are shown by their plan, from any position on -/
theorem paged_pageFrom {numbers : List Int} (hone : 1 ≤ position)
    (hposition : position + numbers.length = total + 1) (hs : s₀.Follows s) {r : Except Fault Nat}
    (h : (pageFrom own below limit total position numbers).runIn s = (r, t)) :
    Paged s₀ s own below limit [] total position (plan numbers s.answers)
      (Suffice numbers.length s.answers) r t := by
  -- the answers behind a message are used up, and the plan of the rest is made of those left
  induction numbers generalizing position s r t with
  | nil =>
    cases h
    exact Paged.nil (.shown (.inl (Nat.zero_le _)))
  | cons n ns ih =>
    obtain ⟨asks, rest, hplan⟩ := exists_plan_cons n ns s.answers
    have hcalls : s₀.Follows { s with calls := s.calls ++ [pageFetch n] } :=
      (Session.Follows.isOpen s₀).calls s _ hs
    rw [runIn_pageFrom_cons, hs.messagesAt] at h
    cases hfetched : s₀.messagesAt (Text.decimalInt n) with
    | error e =>
      rw [hfetched] at h
      cases h
      rw [hplan]
      exact paged_of_fault (.fetch hfetched) (Session.isFrame_prints.refl _)
    | ok fs =>
      rcases fs with _ | ⟨f, fs⟩
      · rw [hfetched] at h
        cases h
        rw [hplan]
        exact paged_of_fault (.missing hfetched) (Session.isFrame_prints.refl _)
      rw [hfetched] at h
      dsimp only at h
      have hprints := View.keeps_display f position own below limit
        { s with calls := s.calls ++ [pageFetch n] }
      cases hdisplay : (View.display f position own below limit).runIn
          { s with calls := s.calls ++ [pageFetch n] } with
      | mk r' u =>
        rw [hdisplay] at h hprints
        rcases r' with e | directory
        · cases h
          rw [hplan]
          exact paged_of_fault (.display hfetched ⟨_, _, hcalls, rfl, hdisplay, rfl⟩) hprints
        have hanswers : u.answers = s.answers := by rw [show u = _ from hprints.rest]
        have hsilence : u.silence = s₀.silence := by rw [show u = _ from hprints.rest, ← hs.silence]
        rw [List.length_cons] at hposition
        refine paged_behindPage hone (by omega) hanswers hsilence
          (fun asks used v hasked => shown_of_display hs hfetched hdisplay hasked) ?_ h
        exact fun v r t hv hrun => ih (Nat.le_succ_of_le hone) (by omega) hv hrun

section
variable {ps : List (Int × Nat)} {enough : Prop}

theorem Paged.close {k : Nat} (h : Paged s₀ s own below limit [] total position ps enough (.ok k) t)
    (closing : Text) :
    Paged s₀ s own below limit closing total position ps enough (.ok k)
      { t with output := t.output ++ closing } := by
  obtain ⟨hrest, k, d, cs, out, further, last, hpages, hend, hcalls, houtput⟩ := h
  cases hend with
  | shown henough =>
    refine ⟨?_, ps.length, d, cs, out, [], closing, hpages, .shown henough, hcalls, ?_⟩
    · rw [hrest]
    · rw [houtput, List.append_nil, List.append_assoc]

theorem Paged.of_error {e : Fault}
    (h : Paged s₀ s own below limit [] total position ps enough (.error e) t) (closing : Text) :
    Paged s₀ s own below limit closing total position ps enough (.error e) t := by
  obtain ⟨hrest, k, d, cs, out, further, last, hpages, hend, hcalls, houtput⟩ := h
  refine ⟨hrest, k, d, cs, out, further, last, hpages, ?_, hcalls, houtput⟩
  cases hend with
  | silent h => exact .silent h
  | stopped hn h => exact .stopped hn h

end

/-- messages are shown by their plan, and then there is a line -/
theorem paged_page {numbers : List Int} (hs : s₀.Follows s) {r : Except Fault Nat}
    (h : (page own below limit numbers).runIn s = (r, t)) :
    Paged s₀ s own below limit (asLines [View.rule]) numbers.length 1 (plan numbers s.answers)
      (Suffice numbers.length s.answers) r t := by
  unfold page at h
  rw [runIn_bind] at h
  cases hrun : (pageFrom own below limit numbers.length 1 numbers).runIn s with
  | mk r' u =>
    have hpaged := paged_pageFrom (Nat.le_refl 1) (Nat.add_comm 1 _) hs hrun
    rw [hrun] at h
    cases r' with
    | error e =>
      cases h
      exact hpaged.of_error _
    | ok k =>
      cases h
      exact hpaged.close (asLines [View.rule])

end

end Client
end Mailroom
