import Mailroom.Proofs.Client.Closing
import Mailroom.Smtp.Send

/-!
# Connections that are not handed on

A connection to the mail server is handed on if a folder could be opened; one to the sending server never
is.  Where a connection is not handed on, it should be ended.

* `Smtp.callsOfSending`   the calls by which a mail is handed over;
* `runIn_send_calls`      these calls are made;
* `LogsIn`                the sending server lets the user in;
* `connections_released`  when a connection that is not handed on is ended.
-/

namespace Mailroom

open Program

/-! ## the sending server -/

namespace Smtp

variable {options : Options} {sender : Text} {recipients : Envelope} {data : Except Fault Argument}
  {s : Session}

/-- the call by which a mail is sent, none for a mail that cannot be made -/
def mailCalls (sender : Text) (recipients : Envelope) : Except Fault Argument → List Call
  | .ok d => [.sendMail sender recipients d]
  | .error _ => []

/-- the calls behind the connection to the sending server -/
def callsOfConnected (script : SmtpScript) (options : Options) (sender : Text) (recipients : Envelope)
    (data : Except Fault Argument) : List Call :=
  match options.user, options.password with
  | some user, some password =>
    .smtpLogin user password ::
      if script.login.isSome then [] else mailCalls sender recipients data ++ [.quit]
  | _, _ => []

/-- the calls by which a mail is handed over -/
def callsOfSending (script : SmtpScript) (options : Options) (sender : Text) (recipients : Envelope)
    (data : Except Fault Argument) : List Call :=
  match options.server with
  | some host =>
    .smtpConnect host options.port ::
      if script.connect.isSome then [] else callsOfConnected script options sender recipients data
  | none => []

theorem runIn_command (c : Call) (field : SmtpScript → Option Fault) (s : Session) :
    (do record c; complain (field (← session).smtp) : Program Unit).runIn s
      = (raised (field s.smtp), { s with calls := s.calls ++ [c] }) := by
  rw [record, runIn_bind, runIn_change]
  dsimp only
  rw [runIn_bind, runIn_session]
  dsimp only
  cases field s.smtp <;> rfl

/-- a mail sent behind the login, and the end of the connection whatever comes of it -/
theorem runIn_sending_calls (s : Session) :
    ((ensuring
      (do
        record (.sendMail sender recipients (← settle data))
        complain (← session).smtp.send) quit).runIn s).2
      = { s with calls := s.calls ++ (mailCalls sender recipients data ++ [.quit]) } := by
  have hquit : ∀ s, quit.runIn s = (raised s.smtp.quit, { s with calls := s.calls ++ [.quit] }) :=
    fun s => runIn_command .quit SmtpScript.quit s
  rw [runIn_ensuring, runIn_settle_bind]
  cases data with
  | error f =>
    dsimp only
    rw [hquit]
    cases s.smtp.quit <;> rfl
  | ok d =>
    dsimp only
    rw [runIn_command (.sendMail sender recipients d) SmtpScript.send]
    dsimp only
    rw [hquit]
    cases s.smtp.quit <;> simp [raised, mailCalls]

/-- handing over a mail makes these calls and changes nothing else -/
theorem runIn_send_calls (options : Options) (sender : Text) (recipients : Envelope)
    (data : Except Fault Argument) (s : Session) :
    ((send options sender recipients data).runIn s).2
      = { s with calls := s.calls ++ callsOfSending s.smtp options sender recipients data } := by
  have hconnect : ∀ host port s, (connect host port).runIn s
      = (raised s.smtp.connect, { s with calls := s.calls ++ [.smtpConnect host port] }) :=
    fun host port s => runIn_command (.smtpConnect host port) SmtpScript.connect s
  have hlogin : ∀ user password s, (login user password).runIn s
      = (raised s.smtp.login, { s with calls := s.calls ++ [.smtpLogin user password] }) :=
    fun user password s => runIn_command (.smtpLogin user password) SmtpScript.login s
  unfold send callsOfSending callsOfConnected
  cases options.server with
  | none => simp only [List.append_nil]; rfl
  | some host =>
    change ((connect host options.port >>= _).runIn s).2 = _
    rw [runIn_bind, hconnect]
    cases s.smtp.connect with
    | some f => rfl
    | none =>
      cases options.user with
      | none => rfl
      | some user =>
        cases options.password with
        | none => rfl
        | some password =>
          change ((login user password >>= _).runIn _).2 = _
          rw [runIn_bind, hlogin]
          cases s.smtp.login with
          | some f => simp [raised]
          | none =>
            change ((ensuring _ quit).runIn _).2 = _
            rw [runIn_sending_calls]
            simp

end Smtp

namespace Client

variable {s t : Session} {config : Config} {user password : Text} {folder : Option Text}

/-! ## both servers -/

/-- the sending server lets the user in, whose name and password are given -/
def LogsIn (script : SmtpScript) (options : Smtp.Options) : Prop :=
  options.user.isSome = true ∧ options.password.isSome = true ∧ script.login = none

theorem logout_mem_releases {script : ImapScript} :
    .logout ∈ script.releases ↔ ∀ f, script.close = some f → f.isImap = true := by
  unfold ImapScript.releases
  cases script.close with
  | none => simp
  | some f => cases hf : f.isImap <;> simp [hf]

/-- the connection is ended when a folder cannot be opened -/
theorem logout_mem_callsOfOpening {script : ImapScript} (hconnect : script.connect = none) :
    .logout ∈ callsOfOpening script config user password folder ↔
      script.login = none ∧ refusesFolder script = true ∧
        ∀ f, script.close = some f → f.isImap = true := by
  have hopening : Call.logout ∉ openingCalls config user password folder := by
    intro h
    rcases mem_openingCalls h with ⟨_, _, h⟩ | ⟨_, _, h⟩ | ⟨_, h⟩ <;> cases h
  have hfront : Call.logout ∉ (openingCalls config user password folder).take 2 :=
    fun h => hopening (List.mem_of_mem_take h)
  unfold callsOfOpening
  rw [hconnect, if_neg (by simp)]
  cases script.login with
  | some f => simp [hfront]
  | none =>
    cases refusesFolder script with
    | false => simp [hopening]
    | true => simp [hopening, logout_mem_releases]

/-- the connection to the sending server is ended once, last of all, if the login succeeds, and not at all
otherwise -/
theorem quit_callsOfSending {script : SmtpScript} {options : Smtp.Options} (sender : Text)
    (recipients : Envelope) (data : Except Fault Argument) (hserver : options.server.isSome = true)
    (hconnect : script.connect = none) :
    (LogsIn script options ∧ ∃ front,
      Smtp.callsOfSending script options sender recipients data = front ++ [.quit] ∧ .quit ∉ front) ∨
    ¬LogsIn script options ∧ .quit ∉ Smtp.callsOfSending script options sender recipients data := by
  obtain ⟨host, hhost⟩ := Option.isSome_iff_exists.1 hserver
  unfold Smtp.callsOfSending Smtp.callsOfConnected LogsIn
  rw [hhost, hconnect]
  dsimp only
  rw [if_neg (by simp)]
  cases options.user with
  | none => exact .inr (by simp)
  | some user =>
    cases options.password with
    | none => exact .inr (by simp)
    | some password =>
      cases script.login with
      | some f => exact .inr (by simp)
      | none =>
        refine .inl ⟨⟨rfl, rfl, rfl⟩, .smtpConnect host options.port :: .smtpLogin user password ::
          Smtp.mailCalls sender recipients data, rfl, ?_⟩
        cases data <;> simp [Smtp.mailCalls]

/-- **Connections that are not handed on.**  If the connection to the mail server was made and opening a
folder fails, the connection is ended exactly if the login succeeded, the folder was refused, and it was
not closed with a fault of another kind than the server's.  If the connection to the sending server was
made, it is ended exactly if the login succeeded; then it is ended once and behind everything else,
whatever comes of the mail. -/
theorem connections_released (config : Config) (user password : Text) (folder : Option Text)
    (options : Smtp.Options) (sender : Text) (recipients : Envelope) (data : Except Fault Argument)
    (s t : Session) :
    (∀ f, s.imap.connect = none →
      (Imap.openFolder config user password folder).runIn s = (.error f, t) →
      ∃ cs, t.calls = s.calls ++ cs ∧
        (.logout ∈ cs ↔ s.imap.login = none ∧ refusesFolder s.imap = true ∧
          ∀ f, s.imap.close = some f → f.isImap = true)) ∧
    (∀ r, options.server.isSome = true → s.smtp.connect = none →
      (Smtp.send options sender recipients data).runIn s = (r, t) →
      ∃ cs, t.calls = s.calls ++ cs ∧ (.quit ∈ cs ↔ LogsIn s.smtp options) ∧
        (.quit ∈ cs → ∃ front, cs = front ++ [.quit] ∧ .quit ∉ front)) := by
  constructor
  · intro f hconnect hrun
    obtain ⟨refusal, hopen⟩ := runIn_openFolder config user password folder s
    rw [hopen] at hrun
    obtain ⟨-, rfl⟩ := Prod.mk.inj hrun
    exact ⟨_, rfl, logout_mem_callsOfOpening hconnect⟩
  · intro r hserver hconnect hrun
    have hcalls := Smtp.runIn_send_calls options sender recipients data s
    rw [hrun] at hcalls
    refine ⟨_, congrArg Session.calls hcalls, ?_⟩
    rcases quit_callsOfSending sender recipients data hserver hconnect with
      ⟨hin, front, hfront, hnot⟩ | ⟨hout, hnot⟩
    · rw [hfront]
      exact ⟨by simp [hin], fun _ => ⟨front, rfl, hnot⟩⟩
    · exact ⟨by simp [hnot, hout], fun h => absurd h hnot⟩

/-- a session of two servers: the folder is refused, with a complaint about its end, and so is the mail -/
def refusing : Session :=
  { Session.quiet with
    imap := { Session.quiet.imap with
      select := some (.ok ⟨"NO", some [.nothing]⟩), close := some (.imap "no folder is open") }
    smtp := { Session.quiet.smtp with send := some (.smtp "too many recipients") } }

/-- how the sending server is reached by a user named Ann -/
def annsOptions : Smtp.Options := ⟨some "smtp.c.org", 465, some "ann", some "secret"⟩

theorem connections_released_refusing :
    (∃ f t, refusing.imap.connect = none ∧
      (Imap.openFolder .plain "ann" "secret" none).runIn refusing = (.error f, t) ∧ .logout ∈ t.calls) ∧
    ∃ r t front, annsOptions.server.isSome = true ∧ refusing.smtp.connect = none ∧
      (Smtp.send annsOptions "ann@c.org" (.one "bob@c.org") (.ok (.text "hi"))).runIn refusing = (r, t) ∧
      t.calls = front ++ [.quit] ∧ .quit ∉ front := by
  constructor
  · obtain ⟨cs, hcs, hlogout⟩ := (connections_released .plain "ann" "secret" none annsOptions "ann@c.org"
      (.one "bob@c.org") (.ok (.text "hi")) refusing _).1 _ rfl (Prod.ext rfl rfl)
    refine ⟨_, _, rfl, Prod.ext rfl rfl, ?_⟩
    rw [hcs]
    refine List.mem_append_right _ (hlogout.2 ⟨rfl, rfl, ?_⟩)
    rintro f hf
    cases hf
    rfl
  · obtain ⟨cs, hcs, hquit, hlast⟩ := (connections_released .plain "ann" "secret" none annsOptions "ann@c.org"
      (.one "bob@c.org") (.ok (.text "hi")) refusing _).2 _ rfl rfl (Prod.ext rfl rfl)
    obtain ⟨front, hfront, hnot⟩ := hlast (hquit.2 ⟨rfl, rfl, rfl⟩)
    refine ⟨_, _, front, rfl, rfl, Prod.ext rfl rfl, ?_, hnot⟩
    rw [hcs, hfront]
    rfl

/-- a login that fails leaves both connections as they are -/
theorem connections_kept :
    let s : Session := { Session.quiet with
      imap := { Session.quiet.imap with login := some (.imap "bad password") }
      smtp := { Session.quiet.smtp with login := some (.smtpAuth 535 [98, 97, 100]) } }
    ((Imap.openFolder .plain "ann" "wrong" none).runIn s).2.calls
        = [.imapConnect "imap.c.org" 993, .login "ann" "wrong"] ∧
      ((Smtp.send annsOptions "ann@c.org" (.one "bob@c.org") (.ok (.text "hi"))).runIn s).2.calls
        = [.smtpConnect "smtp.c.org" 465, .smtpLogin "ann" "secret"] :=
  ⟨rfl, rfl⟩

end Client
end Mailroom
