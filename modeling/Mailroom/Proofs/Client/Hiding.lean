import Mailroom.Proofs.Client.Sending

/-!
# Hidden copies stay hidden

Two runs that send the same mail with other hidden copies are set side by side.  They come to the same
result and print the same, and what they ask of the world differs in nothing but the end of the envelope.

* `Alike`                the results and the calls of two runs, side by side;
* `SideBySide`           two programs whose runs stay in a relation, and its rules;
* `HidesCopies`          two calls that tell different hidden copies apart only by the envelope;
* `addressees_eq_map`, `letterOf_eq_map`   hidden copies reach nothing but the envelope of a letter;
* `send_hides_copies`    the two runs.
-/

namespace Mailroom

open Program

/-! ## two runs side by side -/

/-- the second session is the first one with other calls, and since the session `s₀` the calls of both
correspond one by one -/
structure Session.Beside (H : Call → Call → Prop) (s₀ s t : Session) : Prop where
  rest : t = { s with calls := t.calls }
  calls : ∃ cs ds, s.calls = s₀.calls ++ cs ∧ t.calls = s₀.calls ++ ds ∧ List.Forall₂ H cs ds

theorem Session.Beside.of_calls_eq (H : Call → Call → Prop) {s₀ s : Session} (h : s.calls = s₀.calls) :
    s₀.Beside H s s := by
  have hnone : s.calls = s₀.calls ++ [] := h.trans (List.append_nil _).symm
  exact ⟨rfl, [], [], hnone, hnone, .nil⟩

/-- two runs that come to the same result, and whose calls correspond one by one -/
structure Alike {α : Type} (H : Call → Call → Prop) (s₀ : Session)
    (run run' : Except Fault α × Session) : Prop where
  result : run'.1 = run.1
  session : s₀.Beside H run.2 run'.2

namespace Program

variable {α β : Type} {H : Call → Call → Prop} {s₀ : Session}

/-- from two sessions beside each other the programs come to the same result, and to sessions beside
each other -/
def SideBySide (H : Call → Call → Prop) (s₀ : Session) (p p' : Program α) : Prop :=
  ∀ s t, s₀.Beside H s t → Alike H s₀ (p.runIn s) (p'.runIn t)

theorem SideBySide.pure (a : α) : SideBySide H s₀ (Pure.pure a) (Pure.pure a) := fun _ _ h => ⟨rfl, h⟩

theorem SideBySide.settle (r : Except Fault α) : SideBySide H s₀ (settle r) (settle r) :=
  fun _ _ h => ⟨rfl, h⟩

theorem SideBySide.bind {p p' : Program α} {k k' : α → Program β} (hp : SideBySide H s₀ p p')
    (hk : ∀ a, SideBySide H s₀ (k a) (k' a)) : SideBySide H s₀ (p >>= k) (p' >>= k') := by
  intro s t h
  obtain ⟨hresult, hsession⟩ := hp s t h
  rw [runIn_bind, runIn_bind]
  cases hrun : p.runIn s with
  | mk r u =>
    cases hrun' : p'.runIn t with
    | mk r' u' =>
      rw [hrun, hrun'] at hresult hsession
      cases hresult
      cases r with
      | ok a => exact hk a u u' hsession
      | error f => exact ⟨rfl, hsession⟩

theorem SideBySide.ensuring {body body' : Program α} {after after' : Program Unit}
    (hbody : SideBySide H s₀ body body') (hafter : SideBySide H s₀ after after') :
    SideBySide H s₀ (ensuring body after) (ensuring body' after') := by
  intro s t h
  obtain ⟨hresult, hsession⟩ := hbody s t h
  rw [runIn_ensuring, runIn_ensuring]
  cases hrun : body.runIn s with
  | mk r u =>
    cases hrun' : body'.runIn t with
    | mk r' u' =>
      rw [hrun, hrun'] at hresult hsession
      cases hresult
      obtain ⟨hresult, hsession⟩ := hafter u u' hsession
      dsimp only
      cases hend : after.runIn u with
      | mk e v =>
        cases hend' : after'.runIn u' with
        | mk e' v' =>
          rw [hend, hend'] at hresult hsession
          cases hresult
          cases e with
          | ok _ => exact ⟨rfl, hsession⟩
          | error f => exact ⟨rfl, hsession⟩

theorem SideBySide.record {c d : Call} (h : H c d) : SideBySide H s₀ (record c) (record d) := by
  rintro s t ⟨hrest, cs, ds, hs, ht, hcalls⟩
  refine ⟨rfl, ?_, cs ++ [c], ds ++ [d], ?_, ?_, List.rel_append hcalls (.cons h .nil)⟩
  · show { t with calls := t.calls ++ [d] } = { s with calls := t.calls ++ [d] }
    rw [hrest]
  · show s.calls ++ [c] = _
    rw [hs, List.append_assoc]
  · show t.calls ++ [d] = _
    rw [ht, List.append_assoc]

/-- a fault of a script that does not look at the calls -/
theorem SideBySide.complain (field : Session → Option Fault)
    (h : ∀ s calls, field { s with calls } = field s) :
    SideBySide H s₀ (do complain (field (← session))) (do complain (field (← session))) := by
  intro s t hst
  have hfield : field t = field s := by rw [hst.rest, h]
  rw [runIn_bind, runIn_bind, runIn_session, runIn_session]
  show Alike H s₀ ((Program.complain (field s)).runIn s) ((Program.complain (field t)).runIn t)
  rw [hfield]
  cases field s with
  | none => exact ⟨rfl, hst⟩
  | some f => exact ⟨rfl, hst⟩

end Program

/-- whether a mail is sent -/
def Call.isMail : Call → Bool
  | .sendMail _ _ _ => true
  | _ => false

/-- the sending server is reached in the same way, whomever a mail is for -/
theorem Smtp.sideBySide_send {H : Call → Call → Prop} {s₀ : Session} (options : Options) (sender : Text)
    {recipients recipients' : Envelope} (data : Except Fault Argument)
    (hsame : ∀ c : Call, c.isMail = false → H c c)
    (hmail : ∀ data, H (.sendMail sender recipients data) (.sendMail sender recipients' data)) :
    SideBySide H s₀ (send options sender recipients data) (send options sender recipients' data) := by
  have hneeded : ∀ name value, SideBySide H s₀ (needed name value) (needed name value) := by
    intro name value
    cases value with
    | none => exact SideBySide.settle _
    | some v => exact SideBySide.pure v
  have hconnect : ∀ host port, SideBySide H s₀ (connect host port) (connect host port) := fun _ _ =>
    (SideBySide.record (hsame _ rfl)).bind fun _ =>
      SideBySide.complain (fun s => s.smtp.connect) fun _ _ => rfl
  have hlogin : ∀ user password, SideBySide H s₀ (login user password) (login user password) := fun _ _ =>
    (SideBySide.record (hsame _ rfl)).bind fun _ =>
      SideBySide.complain (fun s => s.smtp.login) fun _ _ => rfl
  have hquit : SideBySide H s₀ quit quit :=
    (SideBySide.record (hsame _ rfl)).bind fun _ =>
      SideBySide.complain (fun s => s.smtp.quit) fun _ _ => rfl
  refine (hneeded _ _).bind fun server => (hconnect _ _).bind fun _ => (hneeded _ _).bind fun user =>
    (hneeded _ _).bind fun password => (hlogin _ _).bind fun _ => SideBySide.ensuring ?_ hquit
  exact (SideBySide.settle data).bind fun d => (SideBySide.record (hmail d)).bind fun _ =>
    SideBySide.complain (fun s => s.smtp.send) fun _ _ => rfl

namespace Client

variable {config : Config} {user password : Text} {o : Order} {other : Text} {s : Session}
  {hidden hidden' : List EmailAddress}

/-! ## where hidden copies are read -/

/-- hidden copies that can be read do not matter to the rest of the addresses -/
theorem addressees_eq_map (h : Address.parseList o.hiddenCopies "BCC" = .ok hidden) :
    addressees config user o = (addressees config user { o with hiddenCopies := [] }).map
      fun a => { a with hiddenCopies := hidden } := by
  unfold addressees
  dsimp only
  rw [h]
  cases senderOf config user with
  | error e => rfl
  | ok sender =>
    cases Address.parseList o.recipients "recipient" with
    | error e => rfl
    | ok recipients =>
      cases recipients with
      | nil => rfl
      | cons r rs => cases Address.parseList o.copies "CC" <;> rfl

/-- hidden copies reach nothing of a letter but its envelope -/
theorem letterOf_eq_map (a : Addressees) (hidden : List EmailAddress) (paths : List Text) :
    letterOf config user password s { a with hiddenCopies := hidden } paths { o with hiddenCopies := other }
      = (letterOf config user password s a paths o).map fun letter =>
        { letter with envelope := ({ a with hiddenCopies := hidden } : Addressees).envelope } := by
  have hmap : ∀ {α : Type} (x : Except Fault α) (f : α → Except Fault Letter) (g : Letter → Letter),
      (x >>= f).map g = x >>= fun a => (f a).map g := fun x _ _ => by cases x <;> rfl
  unfold letterOf
  simp only [hmap]
  rfl

/-! ## the calls -/

/-- two calls that tell different hidden copies apart only by the envelope of a mail: behind the
addresses of the other lists stand those of the hidden copies -/
inductive HidesCopies (o : Order) (hidden hidden' : List EmailAddress) : Call → Call → Prop
  | same {c : Call} (h : c.isMail = false) : HidesCopies o hidden hidden' c c
  | mail (sender : Text) (data : Argument) {shown : List Text}
      (h : List.Forall₂ ReadAs (Address.entries o.recipients ++ Address.entries o.copies) shown) :
      HidesCopies o hidden hidden'
        (.sendMail sender (.many (shown ++ hidden.map EmailAddress.addrSpec)) data)
        (.sendMail sender (.many (shown ++ hidden'.map EmailAddress.addrSpec)) data)

theorem envelope_eq (a : Addressees) :
    a.envelope = (a.recipients ++ a.copies).map EmailAddress.addrSpec
      ++ a.hiddenCopies.map EmailAddress.addrSpec := List.map_append

/-- two letters with other hidden copies are posted side by side -/
theorem alike_handedOver {a : Addressees} (ha : addressees config user o = .ok a)
    {letter : Letter} (hletter : letter.envelope = a.envelope) (line : Text) :
    Alike (HidesCopies o a.hiddenCopies hidden') s (handedOver post letter line s)
      (handedOver post
        { letter with envelope := ({ a with hiddenCopies := hidden' } : Addressees).envelope } line s) := by
  obtain ⟨-, hrecipients, -, hcopies, -⟩ := addressees_eq_ok.1 ha
  have hshown : List.Forall₂ ReadAs (Address.entries o.recipients ++ Address.entries o.copies)
      ((a.recipients ++ a.copies).map EmailAddress.addrSpec) := by
    rw [List.map_append]
    exact List.rel_append (readAs_of_parseList hrecipients) (readAs_of_parseList hcopies)
  have hsides : SideBySide (HidesCopies o a.hiddenCopies hidden') s (Smtp.send letter.options _ _ _) _ :=
    Smtp.sideBySide_send letter.options letter.sender letter.data (fun c => .same)
      (fun data => .mail letter.sender data hshown)
  have hposted := hsides s s (Session.Beside.of_calls_eq _ rfl)
  rw [handedOver, handedOver, post, post, hletter, envelope_eq, envelope_eq]
  obtain ⟨hresult, hrest, hcalls⟩ := hposted
  revert hresult hrest hcalls
  -- the runs of the sending server, whose faults end both
  cases (Smtp.send letter.options letter.sender (.many _) letter.data).runIn s with
  | mk r t =>
    cases (Smtp.send letter.options letter.sender (.many _) letter.data).runIn s with
    | mk r' t' =>
      intro hresult hrest hcalls
      cases hresult
      cases r with
      | error f => exact ⟨rfl, hrest, hcalls⟩
      | ok _ => exact ⟨rfl, congrArg (fun u : Session => { u with output := u.output ++ line }) hrest, hcalls⟩

/-- **Hidden copies stay hidden.**  Two runs that send one order with other hidden copies, all of which
can be read, come to the same result and leave everything the same but the calls: they print the same,
and each call of one run is a call of the other, but for the mail.  It is sent from the same sender with
the same data, to the addresses of the recipients and the copies and behind them to those of the
respective hidden copies. -/
theorem send_hides_copies (h : Address.parseList o.hiddenCopies "BCC" = .ok hidden)
    (h' : Address.parseList other "BCC" = .ok hidden') :
    Alike (HidesCopies o hidden hidden') s ((send config user password o).runIn s)
      ((send config user password { o with hiddenCopies := other }).runIn s) := by
  have hvisible : addressees config user o = _ := addressees_eq_map h
  have hvisible' : addressees config user { o with hiddenCopies := other } = _ := addressees_eq_map h'
  unfold send
  cases hseen : addressees config user { o with hiddenCopies := [] } with
  | error e =>
    rw [hseen] at hvisible hvisible'
    rw [runIn_sendWith_of_not_addressed post hvisible, runIn_sendWith_of_not_addressed post hvisible']
    exact ⟨rfl, Session.Beside.of_calls_eq _ rfl⟩
  | ok a =>
    rw [hseen] at hvisible hvisible'
    rw [runIn_sendWith post hvisible, runIn_sendWith post hvisible']
    cases hpaths : checkAttachments s.disk config.allowedExtensions (Path.paths o.attachments) with
    | error r => exact ⟨rfl, Session.Beside.of_calls_eq _ rfl⟩
    | ok paths =>
      dsimp only
      have hother : letterOf config user password s _ paths { o with hiddenCopies := other }
          = (letterOf config user password s _ paths o).map _ :=
        letterOf_eq_map { a with hiddenCopies := hidden } hidden' paths
      cases hletter : letterOf config user password s { a with hiddenCopies := hidden } paths o with
      | error f =>
        rw [hletter] at hother
        rw [hother]
        exact ⟨rfl, Session.Beside.of_calls_eq _ rfl⟩
      | ok letter =>
        rw [hletter] at hother
        rw [hother]
        exact alike_handedOver hvisible (letterOf_envelope hletter).2 _

/-- a mail to Bob with two hidden copies -/
def whisper : Order := ⟨"bob@c.org", "s", some "t", "", "dora@d.org, eve@e.org", ""⟩

theorem send_hides_copies_whisper :
    Address.parseList whisper.hiddenCopies "BCC" = .ok [⟨"dora@d.org", []⟩, ⟨"eve@e.org", []⟩] ∧
    Address.parseList "" "BCC" = .ok [] ∧
    ((send .plain "ann" "pw" whisper).runIn .quiet).2.calls.any Call.isMail = true ∧
    Alike (HidesCopies whisper [⟨"dora@d.org", []⟩, ⟨"eve@e.org", []⟩] []) .quiet
      ((send .plain "ann" "pw" whisper).runIn .quiet)
      ((send .plain "ann" "pw" { whisper with hiddenCopies := "" }).runIn .quiet) := by
  have htwo : Address.parseList whisper.hiddenCopies "BCC"
      = .ok [⟨"dora@d.org", []⟩, ⟨"eve@e.org", []⟩] := by decide +kernel
  exact ⟨htwo, rfl, by decide +kernel, send_hides_copies htwo rfl⟩

end Client
end Mailroom
