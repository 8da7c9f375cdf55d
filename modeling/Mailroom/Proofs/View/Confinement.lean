import Mailroom.Proofs.Files.Places
import Mailroom.Proofs.Session.Runs
import Mailroom.View.Show

/-!
# Where the parts of a message are saved

The parts of a message are saved in a directory of its own.  The directory has the name of the message,
which begins with a number, goes on with the sender's address and ends with the words of the subject.
Of these the address alone may hold a slash, and then the directory is another one.

* `mem_mailId_iff`     a mark of the name that is none of numbers and words is one of the sender;
* `keeps_save`         saving a part makes its directory and writes a file directly inside it;
* `display_frame`      showing a message changes the disk by no more than this, however it ends;
* `display_confined`   a name without a slash keeps everything that is saved below the given directory.
-/

namespace Mailroom.View

open Program

/-! ## names -/

/-- a number of the kind that names messages: hexadecimal digits and hyphens -/
def IsSerial (serial : Text) : Prop :=
  serial ≠ [] ∧ serial.all (fun c => (Text.hexDigit? c).isSome || c == '-') = true

instance (serial : Text) : Decidable (IsSerial serial) := by unfold IsSerial; infer_instance

/-- the sender as it stands in the name of a message -/
def senderName : List Mailbox → Text
  | b :: _ => Text.replaceChar '@' "_at_" b.address
  | [] => "unknown"

/-- the name of a message before it is shortened -/
def wholeId (serial : Text) (senders : List Mailbox) (subject : Option Text) : Text :=
  serial ++ "_" ++ senderName senders ++ "_" ++ slug (subject.getD [])

variable {serial : Text} {m : Message} {limit : Int} {id : Text}

theorem mailId_eq_ok : mailId serial m limit = .ok id ↔ ∃ senders subject,
    shownAddresses m "From" = .ok senders ∧ m.header.field? "Subject" = .ok subject ∧
      id = shorten limit (wholeId serial senders subject) := by
  unfold mailId
  rw [bind_eq_ok]
  constructor
  · rintro ⟨senders, hs, h⟩
    obtain ⟨subject, hsub, h⟩ := bind_eq_ok.1 h
    refine ⟨senders, subject, hs, hsub, ?_⟩
    rw [← pure_eq_ok.1 h]
    cases senders <;> rfl
  · rintro ⟨senders, subject, hs, hsub, rfl⟩
    refine ⟨senders, hs, bind_eq_ok.2 ⟨subject, hsub, ?_⟩⟩
    cases senders <;> rfl

theorem shorten_prefix (limit : Int) (s : Text) : shorten limit s <+: s := List.take_prefix _ s

/-! ### marks that are no part of numbers and words -/

theorem mem_of_mem_squeeze {s : Text} {c : Char} (h : c ∈ squeeze s) : c ∈ s := by
  induction s using squeeze.induct with
  | case1 r ih =>
    rw [squeeze] at h
    exact List.mem_cons_of_mem _ (ih h)
  | case2 d r hd ih =>
    rw [squeeze] at h
    · rcases List.mem_cons.1 h with rfl | h
      · exact List.mem_cons_self
      · exact List.mem_cons_of_mem _ (ih h)
    · exact hd
  | case3 => exact h

/-- a mark that neither a number nor the words of a subject hold, nor what stands between them -/
def IsForeignMark (c : Char) : Prop :=
  (Text.hexDigit? c).isSome = false ∧ Text.isAsciiLetter c = false ∧
    (Text.asciiDigit? c).isSome = false ∧ c ∉ "-_ ".toList

instance (c : Char) : Decidable (IsForeignMark c) := by unfold IsForeignMark; infer_instance

theorem not_mem_slug {c : Char} (hc : IsForeignMark c) (subject : Text) : c ∉ slug subject := by
  intro h
  obtain ⟨-, hletter, hdigit, hmarks⟩ := hc
  obtain ⟨-, hkept⟩ := List.mem_filter.1 (mem_of_mem_squeeze h)
  simp only [hletter, hdigit, Bool.false_or, Bool.or_eq_true, beq_iff_eq] at hkept
  rcases hkept with (rfl | rfl) | rfl <;> exact hmarks (by decide)

theorem not_mem_serial {c : Char} (hc : IsForeignMark c) (hs : IsSerial serial) : c ∉ serial := by
  intro h
  have hmark := List.all_eq_true.1 hs.2 c h
  rw [Bool.or_eq_true, beq_iff_eq] at hmark
  rcases hmark with hhex | rfl
  · exact absurd hhex (by simp [hc.1])
  · exact hc.2.2.2 (by decide)

/-- in the beginning of three texts a mark of the middle one stands in the beginning of the middle -/
theorem mem_take_middle {c : Char} {a b d : Text} (ha : c ∉ a) (hd : c ∉ d) (n : Nat) :
    c ∈ (a ++ b ++ d).take n ↔ c ∈ b.take (n - a.length) := by
  rw [List.take_append, List.take_append, List.mem_append, List.mem_append]
  constructor
  · rintro ((h | h) | h)
    · exact absurd (List.mem_of_mem_take h) ha
    · exact h
    · exact absurd (List.mem_of_mem_take h) hd
  · exact fun h => .inl (.inr h)

/-- such a mark of a name is one of the sender, in the part of the sender that was kept -/
theorem mem_mailId_iff {c : Char} (hc : IsForeignMark c) (hs : IsSerial serial) {senders : List Mailbox}
    (hid : mailId serial m limit = .ok id) (hsenders : shownAddresses m "From" = .ok senders) :
    c ∈ id ↔ c ∈ (senderName senders).take (id.length - (serial.length + 1)) := by
  obtain ⟨senders', subject, hs', -, e⟩ := mailId_eq_ok.1 hid
  rw [hsenders] at hs'
  cases hs'
  have hfront : c ∉ serial ++ "_".toList := by
    rw [List.mem_append]
    rintro (h | h)
    · exact not_mem_serial hc hs h
    · rw [List.mem_singleton.1 h] at hc
      exact absurd hc (by decide)
  have hback : c ∉ "_".toList ++ slug (subject.getD []) := by
    rw [List.mem_append]
    rintro (h | h)
    · rw [List.mem_singleton.1 h] at hc
      exact absurd hc (by decide)
    · exact not_mem_slug hc _ h
  have hwhole : wholeId serial senders subject
      = (serial ++ "_".toList) ++ senderName senders ++ ("_".toList ++ slug (subject.getD [])) := by
    unfold wholeId
    simp only [List.append_assoc]
  have hprefix : id <+: wholeId serial senders subject := e ▸ shorten_prefix limit _
  have htake := List.prefix_iff_eq_take.1 hprefix
  rw [hwhole] at htake
  calc
    c ∈ id ↔ c ∈ List.take id.length _ := by rw [← htake]
    _ ↔ c ∈ (senderName senders).take (id.length - (serial.length + 1)) := by
      rw [mem_take_middle hfront hback, List.length_append]
      rfl

/-- a name begins like its number, so that it is a name and no step to another directory -/
theorem enter_mailId (hs : IsSerial serial) (hid : mailId serial m limit = .ok id) (p : Place) :
    Disk.enter p id = if id = [] then p else p ++ [id] := by
  have hdot : id.head? ≠ some '.' := by
    obtain ⟨senders, subject, -, -, e⟩ := mailId_eq_ok.1 hid
    intro h
    obtain ⟨r, rfl⟩ := List.head?_eq_some_iff.1 h
    cases serial with
    | nil => exact hs.1 rfl
    | cons c r' =>
      have hprefix : '.' :: r <+: wholeId (c :: r') senders subject := e ▸ shorten_prefix limit _
      have hc : '.' = c := (List.cons_prefix_cons.1 hprefix).1
      exact not_mem_serial (c := '.') (by decide) hs (hc ▸ List.mem_cons_self)
  unfold Disk.enter
  cases id with
  | nil => rfl
  | cons c r =>
    rw [if_neg, if_neg, if_neg]
    · simp
    · rintro ⟨rfl, -⟩
      exact hdot rfl
    · simp only [List.isEmpty_cons, Bool.false_eq_true, List.cons.injEq, false_or]
      rintro ⟨rfl, -⟩
      exact hdot rfl

/-! ## saving -/

theorem not_mem_savedName (mailName : Text) (spot : Spot) (suggested : Option Text) :
    '/' ∉ savedName mailName spot suggested := by
  unfold savedName
  split <;> exact Path.not_mem_baseName _

/-- sessions whose disks differ only by what is saved in a directory -/
def Saved (directory : Text) (s t : Session) : Prop :=
  Disk.Confined (s.disk.passed directory) (s.disk.locate directory) s.disk t.disk

theorem isFrame_saved (directory : Text) : IsFrame (Saved directory) where
  refl s := Disk.Confined.refl s.disk
  trans {s t u} h h' := by
    unfold Saved at h h' ⊢
    rw [h.passed_eq, h.locate_eq] at h'
    exact h.trans h'

theorem keeps_save (directory : Text) (m : Message) (spot : Spot) :
    Keeps (Saved directory) (save directory m spot) := by
  intro s
  unfold save
  rw [runIn_bind, runIn_session]
  dsimp only
  have hmake : Disk.Confined (s.disk.passed directory) (s.disk.locate directory) s.disk
      (s.disk.makeDirectory directory).2 := Disk.confined_makeDirectory directory
  cases hmade : s.disk.makeDirectory directory with
  | mk done made =>
    rw [hmade] at hmake
    rw [runIn_bind, runIn_change]
    dsimp only
    rw [runIn_settle_bind]
    cases done with
    | error f => exact hmake
    | ok _ =>
      dsimp only
      rw [runIn_settle_bind]
      cases m.header.filename? with
      | error f => exact hmake
      | ok suggested =>
        dsimp only
        rw [runIn_settle_bind]
        cases m.content? with
        | error f => exact hmake
        | ok content =>
          dsimp only
          rw [runIn_settle_bind]
          cases hwrite : made.write (Path.join directory
              (savedName (Path.baseName directory) spot suggested)) (content.getD []) with
          | error f => exact hmake
          | ok written =>
            have hfile : Disk.Confined (s.disk.passed directory) (made.locate directory) made written :=
              Disk.confined_write (not_mem_savedName _ _ _) hwrite
            rw [hmake.locate_eq] at hfile
            exact hmake.trans hfile

/-- what saving a part keeps, the entries of a body keep one after the other -/
theorem keeps_linesSaving {R : Session → Session → Prop} (hR : IsFrame R) {directory : Option Text}
    (hsave : ∀ d, directory = some d → ∀ m spot, Keeps R (save d m spot))
    (es : List (Except Fault Entry)) : Keeps R (linesSaving directory es) := by
  induction es with
  | nil => exact Keeps.pure hR _
  | cons e es ih =>
    refine Keeps.bind hR (Keeps.settle hR e) fun entry => ?_
    have hrest : Keeps R (do
        let ls ← linesSaving directory es
        pure (entry.lines ++ ls)) := Keeps.bind hR ih fun _ => Keeps.pure hR _
    dsimp only
    split
    · exact Keeps.bind hR (hsave _ rfl _ _) fun _ => hrest
    · exact hrest

/-- sessions that have the same disk and name messages by the same number -/
def SameDisk (s t : Session) : Prop := t.disk = s.disk ∧ t.serial = s.serial

theorem isFrame_sameDisk : IsFrame SameDisk where
  refl _ := ⟨rfl, rfl⟩
  trans h h' := ⟨h'.1.trans h.1, h'.2.trans h.2⟩

theorem keeps_printLines {R : Session → Session → Prop} (hR : IsFrame R)
    (hprint : ∀ s output, R s { s with output }) (ls : List Text) : Keeps R (printLines ls) :=
  Keeps.forM hR (Keeps.printLine hprint)

theorem display_none_disk (s : Session) (f : Fetched) (position : Int) (own : Option Mailbox)
    (limit : Int) : ((display f position own none limit).runIn s).2.disk = s.disk := by
  have hprint := keeps_printLines isFrame_sameDisk fun _ _ => ⟨rfl, rfl⟩
  have hlines := keeps_linesSaving isFrame_sameDisk fun d (h : none = some d) => by cases h
  have hkeeps : Keeps SameDisk (display f position own none limit) := by
    refine Keeps.bind isFrame_sameDisk (Keeps.session isFrame_sameDisk) fun _ =>
      Keeps.bind isFrame_sameDisk (Keeps.settle isFrame_sameDisk _) fun _ =>
      Keeps.bind isFrame_sameDisk (hprint _) fun _ =>
      Keeps.bind isFrame_sameDisk (hlines _) fun _ =>
      Keeps.bind isFrame_sameDisk (hprint _) fun _ => Keeps.pure isFrame_sameDisk _
  exact (hkeeps s).1

/-- showing a message changes the disk by nothing but what is saved in its directory -/
theorem display_frame (s : Session) (f : Fetched) (position : Int) (own : Option Mailbox)
    (below : Text) (limit : Int) :
    ((display f position own (some below) limit).runIn s).2.disk = s.disk ∨
    ∃ id, mailId s.serial f.message limit = .ok id ∧
      Saved (Path.join below id) s ((display f position own (some below) limit).runIn s).2 := by
  unfold display
  rw [runIn_bind, runIn_session]
  dsimp only
  rw [runIn_settle_bind]
  cases heading s.zone f position own with
  | error x => exact .inl rfl
  | ok lines =>
    dsimp only
    have hsame := keeps_printLines isFrame_sameDisk (fun _ _ => ⟨rfl, rfl⟩) lines s
    rw [runIn_bind]
    cases hprinted : (printLines lines).runIn s with
    | mk r t =>
      rw [hprinted] at hsame
      obtain ⟨hdisk, hserial⟩ := hsame
      cases r with
      | error x => exact .inl hdisk
      | ok _ =>
        dsimp only
        rw [runIn_bind, runIn_session]
        dsimp only
        rw [runIn_settle_bind, hserial]
        cases hid : mailId s.serial f.message limit with
        | error x => exact .inl hdisk
        | ok id =>
          have hR := isFrame_saved (Path.join below id)
          have hprint := keeps_printLines hR fun s output => Disk.Confined.refl s.disk
          have hlines : Keeps _ (linesSaving (some (Path.join below id)) (bodyEntries f.message)) :=
            keeps_linesSaving hR (fun _ e => Option.some.inj e ▸ keeps_save _) _
          have hrest : Saved (Path.join below id) t _ := Keeps.bind hR hlines (fun ls =>
            Keeps.bind hR (hprint ls) fun _ => Keeps.bind hR (Keeps.session hR) fun u =>
            Keeps.pure hR (if u.disk.isDirectoryAt (Path.join below id)
              then some (Path.join below id) else none)) t
          refine .inr ⟨id, rfl, ?_⟩
          unfold Saved at hrest ⊢
          rw [hdisk] at hrest
          exact hrest

/-! ## names without slashes -/

/-- the name of a message can be made, and can be the name of a file: it has neither a slash nor a NUL -/
def HasFileName (serial : Text) (m : Message) (limit : Int) : Prop :=
  ∃ id, mailId serial m limit = .ok id ∧ '/' ∉ id ∧ '\x00' ∉ id

/-- the sender and the subject of a message can be read, and what is kept of the sender's address has
neither a slash nor a NUL -/
def SenderFits (serial : Text) (m : Message) (limit : Int) : Prop :=
  ∃ senders subject, shownAddresses m "From" = .ok senders ∧ m.header.field? "Subject" = .ok subject ∧
    ∀ c ∈ (senderName senders).take
      ((shorten limit (wholeId serial senders subject)).length - (serial.length + 1)),
      c ≠ '/' ∧ c ≠ '\x00'

theorem hasFileName_iff (hs : IsSerial serial) :
    HasFileName serial m limit ↔ SenderFits serial m limit := by
  have hslash : IsForeignMark '/' := by decide
  have hnul : IsForeignMark '\x00' := by decide
  constructor
  · rintro ⟨id, hid, h1, h2⟩
    obtain ⟨senders, subject, hsenders, hsubject, e⟩ := mailId_eq_ok.1 hid
    refine ⟨senders, subject, hsenders, hsubject, fun c hc => ⟨?_, ?_⟩⟩
    · rintro rfl
      exact h1 ((mem_mailId_iff hslash hs hid hsenders).2 (e ▸ hc))
    · rintro rfl
      exact h2 ((mem_mailId_iff hnul hs hid hsenders).2 (e ▸ hc))
  · rintro ⟨senders, subject, hsenders, hsubject, h⟩
    have hid : mailId serial m limit = .ok (shorten limit (wholeId serial senders subject)) :=
      mailId_eq_ok.2 ⟨senders, subject, hsenders, hsubject, rfl⟩
    refine ⟨_, hid, fun hc => ?_, fun hc => ?_⟩
    · exact (h _ ((mem_mailId_iff hslash hs hid hsenders).1 hc)).1 rfl
    · exact (h _ ((mem_mailId_iff hnul hs hid hsenders).1 hc)).2 rfl

/-- what is saved lies directly inside the directory `id` of `below`: there files are written, and this
directory is made, and of `below` what is missing -/
def SavedBelow (below id : Text) (d d' : Disk) : Prop :=
  let p := if id = [] then d.locate below else d.locate below ++ [id]
  Disk.Confined (p :: if (d.place? below).isSome then [] else d.passed below) p d d'

theorem savedBelow_of_saved {s t : Session} {below : Text} (hs : IsSerial serial)
    (hid : mailId serial m limit = .ok id) (hslash : '/' ∉ id)
    (hhome : Path.join below id ≠ s.disk.homePath) (h : Saved (Path.join below id) s t) :
    SavedBelow below id s.disk t.disk := by
  unfold Saved at h
  have hplace := Disk.locate_join hslash hhome
  rw [enter_mailId hs hid] at hplace
  rw [hplace] at h
  refine h.mono fun q hq hnew => ?_
  have hpassed := Disk.passed_join hslash hhome hq
  rw [enter_mailId hs hid] at hpassed
  rcases hpassed with rfl | hq
  · exact List.mem_cons_self
  · -- what is missing on the way to `below` is missing only if `below` leads nowhere
    cases hbelow : s.disk.place? below with
    | some p => exact absurd hnew (Disk.at?_of_mem_passed hbelow hq)
    | none => exact List.mem_cons_of_mem _ hq

/-- **Where the parts of a message are saved.**  The name of a message can be the name of a file exactly
if what it keeps of the sender's address can.  However showing the message ends, files are written
directly inside the one directory of this name, and nothing is made but what is missing on the way to
it; if the name has no slash, this is the directory of the name directly below the given one.  Without
a name, and without a directory to save in, nothing is changed. -/
theorem display_confined (s : Session) (hs : IsSerial s.serial) (f : Fetched) (position : Int)
    (own : Option Mailbox) (below : Text) (limit : Int) :
    (HasFileName s.serial f.message limit ↔ SenderFits s.serial f.message limit) ∧
    (∀ id, mailId s.serial f.message limit = .ok id →
      Saved (Path.join below id) s ((display f position own (some below) limit).runIn s).2 ∧
      ('/' ∉ id → Path.join below id ≠ s.disk.homePath →
        SavedBelow below id s.disk ((display f position own (some below) limit).runIn s).2.disk)) ∧
    ((∀ id, mailId s.serial f.message limit ≠ .ok id) →
      ((display f position own (some below) limit).runIn s).2.disk = s.disk) ∧
    ((display f position own none limit).runIn s).2.disk = s.disk := by
  have hsaved : ∀ id, mailId s.serial f.message limit = .ok id →
      Saved (Path.join below id) s ((display f position own (some below) limit).runIn s).2 := by
    intro id hid
    rcases display_frame s f position own below limit with hsame | ⟨id', hid', hsaved⟩
    · unfold Saved
      rw [hsame]
      exact Disk.Confined.refl s.disk
    · rw [hid] at hid'
      cases hid'
      exact hsaved
  refine ⟨hasFileName_iff hs, fun id hid => ⟨hsaved id hid, fun hslash hhome => ?_⟩, fun hnone => ?_,
    display_none_disk s f position own limit⟩
  · exact savedBelow_of_saved hs hid hslash hhome (hsaved id hid)
  · rcases display_frame s f position own below limit with hsame | ⟨id, hid, -⟩
    · exact hsame
    · exact absurd hid (hnone id)

/-- a message with one part that can be saved -/
def attached (sender : Text) : Message :=
  .container ⟨[⟨"From", sender⟩, ⟨"Content-Type", "multipart/mixed; boundary=X"⟩], false⟩
    [.leaf ⟨[⟨"Content-Type", "application/pdf; name=f.pdf"⟩], false⟩ [104, 101, 108, 108, 111]]

theorem display_confined_attached :
    IsSerial Session.quiet.serial ∧ ∃ id,
      mailId Session.quiet.serial (attached "a@c.org") 150 = .ok id ∧ '/' ∉ id ∧
      SavedBelow "/home/ann" id Session.quiet.disk
        ((display ⟨1, [], 0, none, attached "a@c.org"⟩ 1 none (some "/home/ann") 150).runIn
          Session.quiet).2.disk := by
  have hs : IsSerial Session.quiet.serial := by decide
  have hid : (mailId Session.quiet.serial (attached "a@c.org") 150).toOption
      = some "00000000-0000-4000-8000-000000000000_a_at_c.org_".toList := by decide +kernel
  cases h : mailId Session.quiet.serial (attached "a@c.org") 150 with
  | error x =>
    rw [h] at hid
    cases hid
  | ok id =>
    rw [h] at hid
    cases hid
    exact ⟨hs, _, rfl, by decide, ((display_confined Session.quiet hs
      ⟨1, [], 0, none, attached "a@c.org"⟩ 1 none "/home/ann" 150).2.1 _ h).2 (by decide) (by decide)⟩

/-- an address may hold a slash in front of its `@`, and with it the name of the message -/
theorem not_hasFileName_attached :
    ¬HasFileName "00000000-0000-4000-8000-000000000000" (attached "a/b@c.org") 150 := by
  have hname : (mailId "00000000-0000-4000-8000-000000000000" (attached "a/b@c.org") 150).toOption
      = some "00000000-0000-4000-8000-000000000000_a/b_at_c.org_".toList := by decide +kernel
  rintro ⟨id, hid, hslash, -⟩
  rw [hid] at hname
  cases hname
  exact hslash (by decide)

end Mailroom.View
