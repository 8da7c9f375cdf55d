import Mailroom.Proofs.Imap.Faults
import Mailroom.Proofs.View.Saving

/-!
# What stops showing a message

A message that is shown is read again and again: its heading, its parts, and, when they are saved, the
name of the message and the names of its parts.

* `Disk.write_eq_error`, `Disk.makeDirectory_eq_error`   what the disk refuses;
* `exists_mailId`, `readable_of_saved`   what can be read once the heading and the parts can;
* `DisplayFault`    the faults that are left: of the heading, of a part, and of a NUL in a path;
* `ends_display`    how showing a message ends.
-/

namespace Mailroom

open Program

/-! ## what the disk refuses -/

namespace Disk

variable {d d' : Disk} {path : Text} {content : Octets} {f : Fault}

/-- the system refuses a path, or the path holds a NUL -/
def Refuses (path : Text) (f : Fault) : Prop :=
  f.isTold = true ∨ '\x00' ∈ path ∧ f = .value "embedded null byte"

theorem checkPath_eq_error (h : checkPath path = .error f) : Refuses path f := by
  unfold checkPath at h
  split at h
  case isTrue hnul =>
    cases h
    exact .inr ⟨List.contains_iff_mem.1 hnul, rfl⟩
  case isFalse =>
    split at h
    · cases h
      exact .inl rfl
    · cases h

theorem write_eq_error (h : d.write path content = .error f) : Refuses path f := by
  rcases bind_eq_error.1 h with h | ⟨_, -, h⟩
  · exact checkPath_eq_error h
  · split at h
    · split at h
      · cases h
        exact .inl rfl
      · split at h
        · cases h
          exact .inl rfl
        · split at h
          · cases h
            exact .inl rfl
          · cases h
    · cases h
      exact .inl rfl

theorem makeSteps_eq_error {p : Place} {names : List Text}
    (h : (d.makeSteps path p names).1 = .error f) : f.isTold = true := by
  induction names generalizing d p with
  | nil => cases h
  | cons n ns ih =>
    unfold makeSteps at h
    split at h
    · exact ih h
    · split at h
      · exact ih h
      · cases h
        rfl

theorem makeDirectory_eq_error (h : (d.makeDirectory path).1 = .error f) : Refuses path f := by
  unfold makeDirectory at h
  split at h
  case h_1 f' hpath =>
    cases h
    exact checkPath_eq_error hpath
  case h_2 => exact .inl (makeSteps_eq_error h)

theorem home_makeDirectory (d : Disk) (path : Text) : (d.makeDirectory path).2.home = d.home :=
  (confined_makeDirectory (p := d.locate path) path).home

theorem home_write (h : d.write path content = .ok d') : d'.home = d.home := by
  obtain ⟨_, -, h⟩ := bind_eq_ok.1 h
  split at h
  · split at h
    · cases h
    · split at h
      · cases h
      · split at h
        · cases h
        · cases h
          rfl
  · cases h

end Disk

namespace View

variable {m p : Message} {spot : Spot} {entry : Entry} {zone : Zone} {serial : Text} {limit : Int}
  {f : Fetched}

/-! ## what can be read -/

theorem exists_mailId {position : Int} {own : Option Mailbox} {lines : List Text}
    (h : heading zone f position own = .ok lines) : ∃ id, mailId serial f.message limit = .ok id := by
  obtain ⟨sent, -, h⟩ := bind_eq_ok.1 h
  obtain ⟨size, -, h⟩ := bind_eq_ok.1 h
  obtain ⟨subject, hsubject, h⟩ := bind_eq_ok.1 h
  obtain ⟨senders, hsenders, -⟩ := bind_eq_ok.1 h
  exact ⟨_, mailId_eq_ok.2 ⟨senders, subject, hsenders, hsubject, rfl⟩⟩

/-- the entry of a part that is saved has its description -/
theorem exists_describe_of_saved {afterText : Bool} (h : leafEntry m spot afterText = .ok entry)
    (hsaved : entry.saved ≠ none) : ∃ line, describe m = .ok line := by
  obtain ⟨type, -, h⟩ := bind_eq_ok.1 h
  dsimp only at h
  by_cases hplain : type = "text/plain".toList
  · rw [if_pos hplain] at h
    cases h
    exact absurd rfl hsaved
  rw [if_neg hplain] at h
  by_cases hmarkup : type = "text/html".toList
  · rw [if_pos hmarkup] at h
    cases afterText with
    | true | false =>
      obtain ⟨first, -, h⟩ := bind_eq_ok.1 h
      obtain ⟨line, hline, -⟩ := bind_eq_ok.1 h
      exact ⟨line, hline⟩
  rw [if_neg hmarkup] at h
  split at h
  · obtain ⟨line, hline, -⟩ := bind_eq_ok.1 h
    exact ⟨line, hline⟩
  split at h
  · cases h
    exact absurd rfl hsaved
  · obtain ⟨value, -, h⟩ := bind_eq_ok.1 h
    cases h
    exact absurd rfl hsaved

theorem exists_name_of_describe {line : Text} (h : describe m = .ok line) :
    (∃ name, m.header.filename? = .ok name) ∧
      ∃ encoding, m.header.field? "Content-Transfer-Encoding" = .ok encoding := by
  obtain ⟨content, -, h⟩ := bind_eq_ok.1 h
  obtain ⟨type, -, h⟩ := bind_eq_ok.1 h
  obtain ⟨name, hname, h⟩ := bind_eq_ok.1 h
  obtain ⟨encoding, hencoding, -⟩ := bind_eq_ok.1 h
  exact ⟨⟨name, hname⟩, encoding, hencoding⟩

/-- the name and the content of a part that is saved can be read -/
def Readable (m : Message) : Prop :=
  (∃ name, m.header.filename? = .ok name) ∧ ∃ content, m.content? = .ok content

theorem readable_of_leafEntry {header : MessageHeader} {body : Octets} {afterText : Bool}
    (h : leafEntry (.leaf header body) spot afterText = .ok entry) {spot' : Spot}
    (hsaved : entry.saved = some (p, spot')) : Readable p := by
  obtain ⟨line, hline⟩ := exists_describe_of_saved h (by simp [hsaved])
  obtain ⟨hname, encoding, hencoding⟩ := exists_name_of_describe hline
  rw [saved_of_leafEntry h] at hsaved
  split at hsaved
  · cases hsaved
    exact ⟨hname, exists_bind_eq_ok hencoding ⟨_, rfl⟩⟩
  · cases hsaved

mutual

theorem readable_of_mem_partEntries (m : Message) (spot : Spot) (afterText : Bool)
    (h : .ok entry ∈ partEntries spot afterText m) {spot' : Spot}
    (hsaved : entry.saved = some (p, spot')) : Readable p := by
  cases m with
  | leaf header body =>
    rw [partEntries] at h
    exact readable_of_leafEntry (List.mem_singleton.1 h).symm hsaved
  | container header ps =>
    rw [partEntries] at h
    exact readable_of_mem_partsEntries ps _ _ h hsaved

theorem readable_of_mem_partsEntries (ms : List Message) (spot : Spot) (afterText : Bool)
    (h : .ok entry ∈ partsEntries spot afterText ms) {spot' : Spot}
    (hsaved : entry.saved = some (p, spot')) : Readable p := by
  cases ms with
  | nil => cases h
  | cons m ms =>
    rw [partsEntries] at h
    rcases List.mem_append.1 h with h | h
    · exact readable_of_mem_partEntries m _ _ h hsaved
    · exact readable_of_mem_partsEntries ms _ _ h hsaved

end

theorem readable_of_saved (h : .ok entry ∈ bodyEntries m) (hsaved : entry.saved = some (p, spot)) :
    Readable p := by
  cases m with
  | leaf header body =>
    rw [bodyEntries] at h
    rw [saved_of_wholeEntry (List.mem_singleton.1 h).symm] at hsaved
    cases hsaved
  | container header ps => exact readable_of_mem_partsEntries ps _ _ h hsaved

/-! ## faults -/

/-- a path that is written to when the parts of a message are saved: its directory, or a file in it -/
inductive SavedPath (below : Text) (id : Text) (m : Message) : Text → Prop
  | directory : SavedPath below id m (Path.join below id)
  | file {entry : Entry} {p : Message} {spot : Spot} {name : Option Text}
      (hentry : .ok entry ∈ bodyEntries m) (hsaved : entry.saved = some (p, spot))
      (hname : p.header.filename? = .ok name) :
      SavedPath below id m (Path.join (Path.join below id)
        (savedName (Path.baseName (Path.join below id)) spot name))

/-- what stops showing a message, besides the system -/
inductive DisplayFault (zone : Zone) (serial : Text) (below : Option Text) (limit : Int) (f : Fetched) :
    Fault → Prop
  /-- the heading cannot be made: a header cannot be read, or the date or the size cannot be shown -/
  | heading {position : Int} {own : Option Mailbox} {e : Fault}
      (h : View.heading zone f position own = .error e) : DisplayFault zone serial below limit f e
  /-- a part cannot be shown -/
  | entry {e : Fault} (h : .error e ∈ bodyEntries f.message) : DisplayFault zone serial below limit f e
  /-- a path for the parts holds a NUL -/
  | nul {b id path : Text} (hb : below = some b) (hid : mailId serial f.message limit = .ok id)
      (hpath : SavedPath b id f.message path) (hnul : '\x00' ∈ path) :
      DisplayFault zone serial below limit f (.value "embedded null byte")

variable {s₀ : Session} {P : Fault → Prop} (hP : ∀ f, f.isTold = true → P f)
include hP

theorem ends_save {directory : Text} (hp : Readable p)
    (hdirectory : '\x00' ∈ directory → P (.value "embedded null byte"))
    (hfile : ∀ name, p.header.filename? = .ok name →
      '\x00' ∈ Path.join directory (savedName (Path.baseName directory) spot name) →
      P (.value "embedded null byte")) :
    Ends s₀.Follows P (fun _ => True) (save directory p spot) := by
  have hrefused : ∀ {path f}, ('\x00' ∈ path → P (.value "embedded null byte")) →
      Disk.Refuses path f → P f := by
    rintro path f hnul (htold | ⟨hmem, rfl⟩)
    · exact hP f htold
    · exact hnul hmem
  obtain ⟨⟨name, hname⟩, content, hcontent⟩ := hp
  refine Ends.session_bind fun s hs => ?_
  have hmade := s.disk.home_makeDirectory directory
  have hdone : ∀ f, (s.disk.makeDirectory directory).1 = .error f → P f := fun f hf =>
    hrefused hdirectory (Disk.makeDirectory_eq_error hf)
  cases hmake : s.disk.makeDirectory directory with
  | mk done made =>
    rw [hmake] at hmade hdone
    -- the disk keeps its home, whatever is made and written
    have hfollows : ∀ d : Disk, d.home = s.disk.home → ∀ t, s₀.Follows t → s₀.Follows { t with disk := d } :=
      fun d hd t ht => ⟨ht.zone, hd.trans hs.home, ht.serial, ht.silence, ht.imap, ht.answers⟩
    refine Ends.bind (Ends.change (hfollows made hmade)) fun _ _ =>
      Ends.bind (Ends.settle (fun _ _ => trivial) hdone) fun _ _ => ?_
    have hsuggested : Ends s₀.Follows P (fun n => p.header.filename? = .ok n) (settle p.header.filename?) :=
      Ends.settle (fun _ h => h) fun f h => by cases hname.symm.trans h
    have hoctets : Ends s₀.Follows P (fun _ => True) (settle p.content?) :=
      Ends.settle (fun _ _ => trivial) fun f h => by cases hcontent.symm.trans h
    refine Ends.bind hsuggested fun n hn => Ends.bind hoctets fun c _ => ?_
    have hwritten : Ends s₀.Follows P (fun d => d.home = s.disk.home)
        (settle (made.write (Path.join directory (savedName (Path.baseName directory) spot n)) (c.getD []))) :=
      Ends.settle (fun d hd => (Disk.home_write hd).trans hmade) fun f hf =>
        hrefused (hfile n hn) (Disk.write_eq_error hf)
    exact Ends.bind hwritten fun d hd => Ends.change (hfollows d hd)

omit hP in
theorem ends_linesSaving {directory : Option Text} {es : List (Except Fault Entry)}
    (hfault : ∀ e, .error e ∈ es → P e)
    (hsave : ∀ d entry p spot, directory = some d → .ok entry ∈ es → entry.saved = some (p, spot) →
      Ends s₀.Follows P (fun _ => True) (save d p spot)) :
    Ends s₀.Follows P (fun _ => True) (linesSaving directory es) := by
  induction es with
  | nil => exact Ends.pure trivial
  | cons e es ih =>
    have hrest := ih (fun e he => hfault e (List.mem_cons_of_mem _ he))
      fun d entry p spot hd he => hsave d entry p spot hd (List.mem_cons_of_mem _ he)
    have hentry : Ends s₀.Follows P (fun entry => e = .ok entry) (settle e) :=
      Ends.settle (fun _ h => h) fun f hf => hfault f (hf ▸ List.mem_cons_self)
    refine Ends.bind hentry fun entry hentry => ?_
    have hlines : Ends s₀.Follows P (fun _ => True) (do
        let ls ← linesSaving directory es
        pure (entry.lines ++ ls)) := Ends.bind hrest fun _ _ => Ends.pure trivial
    dsimp only
    split
    case h_1 d p spot hsaved =>
      exact Ends.bind (hsave d entry p spot rfl (hentry ▸ List.mem_cons_self) hsaved) fun _ _ => hlines
    case h_2 => exact hlines

omit hP in
theorem ends_printLines (ls : List Text) : Ends s₀.Follows P (fun _ => True) (printLines ls) :=
  Ends.forM fun l _ => Ends.printLine (Session.Follows.isOpen s₀) l

/-- showing a message ends well, with a fault of the system, or with a fault that the message holds -/
theorem ends_display {position : Int} {own : Option Mailbox} {below : Option Text}
    (hfault : ∀ e, DisplayFault s₀.zone s₀.serial below limit f e → P e) :
    Ends s₀.Follows P (fun _ => True) (display f position own below limit) := by
  refine Ends.session_bind fun s hs => ?_
  rw [hs.zone]
  have hheading : Ends s₀.Follows P (fun ls => heading s₀.zone f position own = .ok ls)
      (settle (heading s₀.zone f position own)) :=
    Ends.settle (fun _ h => h) fun e he => hfault e (.heading he)
  refine Ends.bind hheading fun ls hls => Ends.bind (ends_printLines ls) fun _ _ => ?_
  have hentries : ∀ e, .error e ∈ bodyEntries f.message → P e := fun e he => hfault e (.entry he)
  cases below with
  | none =>
    refine Ends.bind (ends_linesSaving hentries fun d _ _ _ hd => by cases hd) fun _ _ => ?_
    exact Ends.bind (ends_printLines _) fun _ _ => Ends.pure trivial
  | some b =>
    refine Ends.session_bind fun s hs => ?_
    -- the name of the message needs nothing that its heading did not need
    obtain ⟨id, hid⟩ : ∃ id, mailId s₀.serial f.message limit = .ok id := exists_mailId hls
    dsimp only
    rw [hs.serial, hid]
    have hsave : ∀ d entry p spot, some (Path.join b id) = some d → .ok entry ∈ bodyEntries f.message →
        entry.saved = some (p, spot) → Ends s₀.Follows P (fun _ => True) (save d p spot) := by
      rintro d entry p spot hd hentry hsaved
      cases hd
      exact ends_save hP (readable_of_saved hentry hsaved)
        (fun hnul => hfault _ (.nul rfl hid .directory hnul))
        fun name hname hnul => hfault _ (.nul rfl hid (.file hentry hsaved hname) hnul)
    refine Ends.pure_bind (a := id) (Ends.bind (ends_linesSaving hentries hsave) fun _ _ => ?_)
    exact Ends.bind (ends_printLines _) fun _ _ => Ends.session_bind fun _ _ => Ends.pure trivial

end View
end Mailroom
