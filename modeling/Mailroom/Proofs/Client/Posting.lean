import Mailroom.Proofs.Address.RoundTrip
import Mailroom.Proofs.Client.Sending
import Mailroom.Proofs.Session.Endings

/-!
# What stops sending a mail

Addresses that are refused and complaints of the sending server are told.  What is left comes of the mail
itself: it cannot be made, or it cannot be written.

* `SendingFault`     the faults that come of the mail;
* `ends_send`        sending ends well, with a fault that is told, or with one of these.
-/

namespace Mailroom

open Program

namespace Client

variable {config : Config} {user password : Text} {o : Order} {a : Addressees} {s₀ : Session}
  {P : Fault → Prop}

theorem exists_shownAddresses {as : List EmailAddress}
    (h : ∀ a ∈ as, Address.isAddrSpec a.addrSpec = true) : ∃ ss, shownAddresses as = .ok ss := by
  refine exists_mapM_eq_ok.2 fun a ha => ?_
  obtain ⟨s, hs⟩ := Address.exists_format (h a ha)
  exact ⟨s, orFault_eq_ok.2 hs⟩

theorem isAddrSpec_of_parseList {value what : Text} {as : List EmailAddress}
    (h : Address.parseList value what = .ok as) : ∀ a ∈ as, Address.isAddrSpec a.addrSpec = true := by
  intro a ha
  obtain ⟨e, -, he⟩ := exists_left_of_mem (parseList_eq_ok.1 h) ha
  exact Address.isAddrSpec_of_parse he

/-- with valid addresses, nothing but a missing text keeps a mail from being drafted -/
theorem draftOf_eq_error {disk : Disk} {paths : List Text} {e : Fault}
    (ha : addressees config user o = .ok a) (h : draftOf disk a paths o = .error e) :
    o.text = none ∧ textOf disk o.text = .error e := by
  obtain ⟨hsender, hrecipients, -, hcopies, -⟩ := addressees_eq_ok.1 ha
  obtain ⟨sender, hparse, hsender⟩ := senderOf_eq_ok.1 hsender
  have hspec : ∀ b ∈ [a.sender], Address.isAddrSpec b.addrSpec = true := by
    intro b hb
    have hvalid := Address.isAddrSpec_of_parse hparse
    rw [List.mem_singleton.1 hb, hsender]
    exact hvalid
  obtain ⟨ss, hss⟩ := exists_shownAddresses hspec
  obtain ⟨rs, hrs⟩ := exists_shownAddresses (isAddrSpec_of_parseList hrecipients)
  obtain ⟨cs, hcs⟩ := exists_shownAddresses (isAddrSpec_of_parseList hcopies)
  rcases bind_eq_error.1 h with h | ⟨_, -, h⟩
  · cases hss.symm.trans h
  rcases bind_eq_error.1 h with h | ⟨_, -, h⟩
  · cases hrs.symm.trans h
  rcases bind_eq_error.1 h with h | ⟨_, -, h⟩
  · refine ⟨?_, h⟩
    cases htext : o.text with
    | none => rfl
    | some value =>
      rw [htext] at h
      cases h
  rcases bind_eq_error.1 h with h | ⟨_, -, h⟩
  · cases hcs.symm.trans h
  · cases h

/-! ## faults of the mail -/

/-- what stops sending a mail, besides the faults that are told -/
inductive SendingFault (config : Config) (user password : Text) (s : Session) (o : Order) : Fault → Prop
  /-- two dashes stand in the place of a text -/
  | text {e : Fault} (ho : o.text = none) (h : textOf s.disk o.text = .error e) :
      SendingFault config user password s o e
  /-- the clock cannot show the time -/
  | clock {e : ClockError} (h : s.zone.ofInstant s.now = .error e) :
      SendingFault config user password s o (.clock e)
  /-- a header cannot be made, or a file cannot be read -/
  | compose {receivers : Addressees} {paths : List Text} {draft : Draft} {time : Stamp} {e : Fault}
      (hr : addressees config user o = .ok receivers) (hd : draftOf s.disk receivers paths o = .ok draft)
      (ht : s.zone.ofInstant s.now = .ok time)
      (h : Message.compose s.disk s.messageId time.letter draft = .error e) :
      SendingFault config user password s o e
  /-- a header cannot be written -/
  | write {receivers : Addressees} {paths : List Text} {letter : Letter} {e : Fault}
      (hr : addressees config user o = .ok receivers)
      (hl : letterOf config user password s receivers paths o = .ok letter) (h : letter.data = .error e) :
      SendingFault config user password s o e

theorem letterOf_eq_error {paths : List Text} {e : Fault} (ha : addressees config user o = .ok a)
    (h : letterOf config user password s₀ a paths o = .error e) :
    SendingFault config user password s₀ o e := by
  rcases bind_eq_error.1 h with hdraft | ⟨draft, hdraft, h⟩
  · obtain ⟨ho, htext⟩ := draftOf_eq_error ha hdraft
    exact .text ho htext
  rcases bind_eq_error.1 h with htime | ⟨time, htime, h⟩
  · obtain ⟨e', he', rfl⟩ := orFault_eq_error.1 htime
    exact .clock he'
  rcases bind_eq_error.1 h with hm | ⟨m, -, h⟩
  · exact .compose ha hdraft (orFault_eq_ok.1 htime) hm
  · cases h

theorem letterOf_options {paths : List Text} {letter : Letter}
    (h : letterOf config user password s₀ a paths o = .ok letter) :
    letter.options = ⟨some config.smtpServer, config.smtpPort, some user, some password⟩ := by
  obtain ⟨draft, -, h⟩ := bind_eq_ok.1 h
  obtain ⟨time, -, h⟩ := bind_eq_ok.1 h
  obtain ⟨m, -, h⟩ := bind_eq_ok.1 h
  cases h
  rfl

end Client

/-! ## sending -/

/-- a session in which, since another one, something was only asked and printed -/
def Session.Reports (s₀ s : Session) : Prop :=
  ∃ calls output, s = { s₀ with calls, output }

theorem Session.Reports.refl (s : Session) : s.Reports s := ⟨s.calls, s.output, rfl⟩

theorem Session.Reports.isOpen (s₀ : Session) : IsOpen s₀.Reports where
  calls := by
    rintro s calls ⟨_, output, rfl⟩
    exact ⟨calls, output, rfl⟩
  output := by
    rintro s output ⟨calls, _, rfl⟩
    exact ⟨calls, output, rfl⟩

section
variable {config : Config} {user password : Text} {o : Client.Order} {s₀ : Session} {P : Fault → Prop}
  (hP : ∀ f, f.isTold = true → P f)
include hP

/-- a command of the sending server -/
theorem ends_smtp (c : Call) {field : SmtpScript → Option Fault} (h : RaisesWorldly (field s₀.smtp)) :
    Ends s₀.Reports P (fun _ => True) (do record c; complain (field (← session).smtp)) := by
  refine Ends.command (Session.Reports.isOpen s₀) c fun s hs f hf => ?_
  obtain ⟨calls, output, rfl⟩ := hs
  exact hP f (Fault.isTold_of_isWorldly (h f hf))

theorem ends_post (hw : s₀.Worldly) {letter : Client.Letter}
    (hoptions : letter.options = ⟨some config.smtpServer, config.smtpPort, some user, some password⟩)
    (hdata : ∀ e, letter.data = .error e → P e) :
    Ends s₀.Reports P (fun _ => True) (Client.post letter) := by
  have hconnect := fun host port => ends_smtp hP (.smtpConnect host port) hw.smtpConnect
  have hlogin := fun user password => ends_smtp hP (.smtpLogin user password) hw.smtpLogin
  have hsend := fun data => ends_smtp hP (.sendMail letter.sender (.many letter.envelope) data) hw.sendMail
  have hquit := ends_smtp hP .quit hw.quit
  unfold Client.post
  rw [hoptions]
  -- an option that is there is as good as a value
  refine Ends.pure_bind (Ends.bind (hconnect _ _) fun _ _ => Ends.pure_bind (Ends.pure_bind ?_))
  refine Ends.bind (hlogin _ _) fun _ _ => Ends.ensuring ?_ hquit
  exact Ends.bind (Q := fun _ => True) (Ends.settle (fun _ _ => trivial) hdata) fun data _ => hsend data

/-- sending a mail ends well, with a fault that is told, or with one of those -/
theorem ends_send (hw : s₀.Worldly)
    (hfault : ∀ e, Client.SendingFault config user password s₀ o e → P e) :
    Ends s₀.Reports P (fun _ => True) (Client.send config user password o) := by
  have hopen := Session.Reports.isOpen s₀
  refine Ends.session_bind fun s hs => ?_
  obtain ⟨calls, output, rfl⟩ := hs
  have hreceivers : Ends s₀.Reports P (fun r => Client.addressees config user o = .ok r)
      (settle (orFault .address (Client.addressees config user o))) := by
    refine Ends.settle (fun r hr => orFault_eq_ok.1 hr) fun f hf => ?_
    obtain ⟨e, -, rfl⟩ := orFault_eq_error.1 hf
    exact hP _ rfl
  refine Ends.bind hreceivers fun receivers hr => ?_
  dsimp only
  split
  · exact Ends.bind (Ends.printLine hopen _) fun _ _ => Ends.pure trivial
  case h_2 paths hpaths =>
    have hletter : Ends s₀.Reports P
        (fun l => Client.letterOf config user password s₀ receivers paths o = .ok l)
        (settle (Client.letterOf config user password s₀ receivers paths o)) :=
      Ends.settle (fun _ h => h) fun e he => hfault e (Client.letterOf_eq_error hr he)
    refine Ends.bind hletter fun letter hl => ?_
    have hposted := ends_post hP hw (Client.letterOf_options hl) fun e he => hfault e (.write hr hl he)
    exact Ends.bind hposted fun _ _ => Ends.bind (Ends.printLine hopen _) fun _ _ => Ends.pure trivial

end
end Mailroom
