import Mailroom.Imap.Watch
import Mailroom.Proofs.Imap.Answers
import Mailroom.Proofs.Session.Endings

/-!
# What stops the commands of the mail server

A session goes on from another one when nothing was used up but answers to searches.  The commands of
the mail server end in such a session, with an answer of its script or with a fault.

* `Session.Follows`    what the commands keep of a session;
* `ImapScript.answers`, `Session.messagesAt`   what the script has to tell;
* `ends_openFolder`, `ends_disconnect`, `ends_unseenCount`, `ends_fetchMessages`   how they end;
* `ends_watched`       a watch over the connection does not change how a program ends.
-/

namespace Mailroom

open Program

namespace ImapScript

/-- the answers that searches can get -/
def answers (script : ImapScript) : List (Except Fault Reply) :=
  match script.search with
  | [] => [.ok ⟨"OK", some [.line []]⟩]
  | rs => rs

variable {script : ImapScript}

theorem nextSearch_mem : script.nextSearch ∈ script.answers := by
  unfold nextSearch answers
  cases script.search with
  | nil => exact List.mem_singleton.2 rfl
  | cons r rs => exact List.mem_cons_self

theorem answers_afterSearch : script.afterSearch.answers ⊆ script.answers := by
  rcases hsearch : script.search with _ | ⟨r, _ | ⟨r', rs⟩⟩
  · rw [afterSearch, hsearch]
    exact List.Subset.refl _
  · rw [afterSearch, hsearch]
    exact List.Subset.refl _
  · rw [afterSearch, hsearch, answers, answers, hsearch]
    exact List.subset_cons_self _ _

end ImapScript

/-- a session in which, since another one, nothing was used up but answers to searches -/
structure Session.Follows (s₀ s : Session) : Prop where
  zone : s.zone = s₀.zone
  home : s.disk.home = s₀.disk.home
  serial : s.serial = s₀.serial
  silence : s.silence = s₀.silence
  imap : { s.imap with search := s₀.imap.search } = s₀.imap
  answers : s.imap.answers ⊆ s₀.imap.answers

/-- the messages that a fetch brings, or what stops it -/
def Session.messagesAt (s : Session) (numbers : Text) : Except Fault (List Fetched) :=
  s.imap.fetched numbers >>= Imap.messagesOf s.zone numbers

variable {s₀ s : Session} {P : Fault → Prop}

theorem Session.Follows.isOpen (s₀ : Session) : IsOpen s₀.Follows where
  calls _ _ h := ⟨h.zone, h.home, h.serial, h.silence, h.imap, h.answers⟩
  output _ _ h := ⟨h.zone, h.home, h.serial, h.silence, h.imap, h.answers⟩

/-- what does not look at the answers to searches stays as it is -/
theorem Session.Follows.field {β : Type} (h : s₀.Follows s) (f : ImapScript → β)
    (hf : ∀ script search, f { script with search } = f script) : f s.imap = f s₀.imap := by
  rw [← h.imap]
  exact (hf _ _).symm

theorem Session.Follows.messagesAt (h : s₀.Follows s) (numbers : Text) :
    s.messagesAt numbers = s₀.messagesAt numbers := by
  unfold Session.messagesAt
  rw [h.field (·.fetched numbers) fun _ _ => rfl, h.zone]

namespace Imap

/-! ## commands -/

section
variable (hw : s₀.Worldly) (hP : ∀ f, f.isTold = true → P f)
include hw hP

omit hw in
/-- a command of the mail server whose script holds nothing but a fault -/
theorem ends_command (c : Call) {field : ImapScript → Option Fault}
    (hfield : ∀ script search, field { script with search } = field script)
    (h : RaisesWorldly (field s₀.imap)) :
    Ends s₀.Follows P (fun _ => True) (do record c; complain (field (← session).imap)) := by
  refine Ends.command (Session.Follows.isOpen s₀) c fun s hs f hf => ?_
  rw [hs.field field hfield] at hf
  exact hP f (Fault.isTold_of_isWorldly (h f hf))

theorem ends_disconnect : Ends s₀.Follows P (fun _ => True) disconnect := by
  have hclose : Ends s₀.Follows P (fun _ => True) close := ends_command hP _ (fun _ _ => rfl) hw.close
  have hlogout : Ends s₀.Follows P (fun _ => True) logout := ends_command hP _ (fun _ _ => rfl) hw.logout
  exact Ends.bind (Ends.ignoring hclose fun f hf _ => hf) fun _ _ =>
    Ends.ignoring hlogout fun f hf _ => hf

theorem ends_select (folder : Text) (readOnly : Bool) :
    Ends s₀.Follows P (fun r => s₀.imap.selected = .ok r) (select folder readOnly) := by
  intro s hs
  rw [runIn_select]
  have hselected : s.imap.selected = s₀.imap.selected := hs.field _ fun _ _ => rfl
  refine ⟨(Session.Follows.isOpen s₀).calls s _ hs, fun r hr => hselected.symm.trans hr, fun f hf => ?_⟩
  have hraised : s₀.imap.selected = .error f := hselected.symm.trans hf
  unfold ImapScript.selected at hraised
  split at hraised
  case h_1 r hselect => exact hP f (Fault.isTold_of_isWorldly (hw.select f (by rw [hselect, hraised])))
  case h_2 => cases hraised

theorem ends_search (charset : Option Text) (criteria : Argument) :
    Ends s₀.Follows P (fun r => .ok r ∈ s₀.imap.answers) (search charset criteria) := by
  intro s hs
  rw [runIn_search]
  have hmem : s.imap.nextSearch ∈ s₀.imap.answers := hs.answers ImapScript.nextSearch_mem
  refine ⟨⟨hs.zone, hs.home, hs.serial, hs.silence, ?_, ?_⟩, fun r hr => ?_, fun f hf => ?_⟩
  · have himap := hs.imap
    unfold ImapScript.afterSearch
    split <;> exact himap
  · exact List.Subset.trans ImapScript.answers_afterSearch hs.answers
  · have hnext : s.imap.nextSearch = .ok r := hr
    rw [hnext] at hmem
    exact hmem
  · have hnext : s.imap.nextSearch = .error f := hf
    rw [hnext] at hmem
    unfold ImapScript.answers at hmem
    split at hmem
    · cases List.mem_singleton.1 hmem
    · exact hP f (Fault.isTold_of_isWorldly (hw.search f hmem))

/-! ## what is made of them -/

/-- a folder is opened with the number that the server tells -/
theorem ends_openFolder (hfolder : ∀ name server, P (.noFolder name server))
    (hcount : ∀ r f, s₀.imap.selected = .ok r → r.status = "OK".toList → countOf r = .error f → P f)
    (config : Config)
    (user password : Text) (folder : Option Text) :
    Ends s₀.Follows P (fun n => ∃ r, s₀.imap.selected = .ok r ∧ countOf r = .ok n)
      (openFolder config user password folder) := by
  have hconnect := fun host port => ends_command hP (.imapConnect host port) (fun _ _ => rfl) hw.imapConnect
  have hlogin := fun user password => ends_command hP (.login user password) (fun _ _ => rfl) hw.imapLogin
  refine Ends.bind (hconnect _ _) fun _ _ => Ends.bind (hlogin _ _) fun _ _ =>
    Ends.bind (ends_select hw hP _ _) fun r hr => ?_
  split
  case isTrue => exact Ends.bind (ends_disconnect hw hP) fun _ _ => Ends.throw (hfolder _ _)
  case isFalse hok =>
    exact Ends.settle (fun n hn => ⟨r, hr, hn⟩) fun f hf => hcount r f hr (Decidable.not_not.1 hok) hf

theorem ends_unseenCount
    (hwords : ∀ r f, .ok r ∈ s₀.imap.answers → r.status = "OK".toList → firstWords r = .error f → P f) :
    Ends s₀.Follows P (fun _ => True) unseenCount := by
  refine Ends.bind (ends_search hw hP _ _) fun r hr => ?_
  split
  case isTrue hok =>
    exact Ends.bind (Ends.settle (fun _ _ => trivial) fun f hf => hwords r f hr hok hf) fun _ _ =>
      Ends.pure trivial
  case isFalse => exact Ends.pure trivial

end

theorem ends_fetchMessages (numbers items : Text)
    (h : ∀ f, s₀.messagesAt numbers = .error f → P f) :
    Ends s₀.Follows P (fun fs => s₀.messagesAt numbers = .ok fs) (fetchMessages numbers items) := by
  intro s hs
  rw [runIn_fetchMessages]
  have hsame := hs.messagesAt numbers
  unfold Session.messagesAt at hsame h ⊢
  dsimp only
  rw [hsame]
  exact ⟨(Session.Follows.isOpen s₀).calls s _ hs, fun fs hfs => hfs, h⟩

/-! ## the watch over the connection -/

theorem ends_timeUp : Ends s₀.Follows P (fun _ => True) timeUp := by
  have hopen := Session.Follows.isOpen s₀
  refine Ends.session_bind fun s _ => ?_
  split
  · refine Ends.bind (Ends.record hopen _) fun _ _ => ?_
    refine Ends.bind (Ends.change fun t ht => ?_) fun _ _ => Ends.print hopen _
    exact ⟨ht.zone, ht.home, ht.serial, ht.silence, ht.imap, ht.answers⟩
  · exact Ends.pure trivial

theorem ends_pause : Ends s₀.Follows P (fun _ => True) pause := by
  refine Ends.session_bind fun s _ => ?_
  rcases s.pauses with _ | ⟨n, rest⟩
  · exact Ends.pure trivial
  · refine Ends.bind (Ends.change fun t ht => ?_) fun _ _ => Ends.forM fun _ _ => ends_timeUp
    exact ⟨ht.zone, ht.home, ht.serial, ht.silence, ht.imap, ht.answers⟩

theorem ends_watched {α : Type} {Q : α → Prop} {body : Program α} (h : Ends s₀.Follows P Q body) :
    Ends s₀.Follows P Q (watched body) := by
  have hwatch : ∀ (s : Session) (watch : KeepAlive), s₀.Follows s → s₀.Follows { s with watch } :=
    fun _ _ hs => ⟨hs.zone, hs.home, hs.serial, hs.silence, hs.imap, hs.answers⟩
  refine Ends.bind (Ends.change fun s => hwatch s _) fun _ _ => ?_
  exact Ends.ensuring (Ends.bind ends_pause fun _ _ => h) (Ends.change fun s => hwatch s _)

end Imap
end Mailroom
