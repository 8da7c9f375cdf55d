import Mailroom.Cli.Run
import Mailroom.Proofs.Client.Posting
import Mailroom.Proofs.Client.Reading
import Mailroom.Proofs.Web.Quotes

/-!
# How a command line ends

A command line ends with an exit code wherever what comes from outside can be read.  The servers, the
system and the user may raise what they like of their own faults; what is left comes of values that
nothing checks before they are used.

* `Ending.IsExit`        the exit codes;
* `Escape`               the faults that nothing tells, with their causes;
* `runArguments_ends`    how arguments are carried out;
* `StopsEarly`           command lines that are refused whatever the world is like;
* `run_ends`             how a command line ends;
* `run_escapes_counting` a folder that cannot be counted.
-/

namespace Mailroom

open Program

namespace Cli

variable {config : Config} {texts : List Text} {a : Arguments} {s₀ s : Session} {P : Fault → Prop}

/-- a quote is told, or what went wrong with it, unless the world stops the program or the answer is
nested too deeply -/
theorem ends_fetchQuote (hw : s₀.Worldly)
    (hP : ∀ f, f.isTold = true ∨ Web.Buries s₀ ∧ (∃ c, f = .tooDeep c) → P f) :
    Ends s₀.Reports P (fun _ => True) (Web.fetchQuote none none) := by
  rintro s ⟨calls, output, rfl⟩
  rw [Web.runIn_fetchQuote]
  refine ⟨⟨_, output, rfl⟩, fun _ _ => trivial, fun f hf => ?_⟩
  dsimp only at hf
  split at hf
  · cases hf
  · rename_i g hquote
    split at hf
    · cases hf
    · rename_i hspoils
      cases hf
      rcases Web.quoteOf_eq_error hquote with hanswer | hg | hdeep
      · exact hP f (.inl (Fault.isTold_of_isWorldly (hw.web f hanswer)))
      · exact absurd hg hspoils
      · exact hP f (.inr hdeep)

/-! ## endings -/

/-- the run ends with an exit code: success, a complaint or an interruption, or what stops a command
line that asks for help or cannot be read -/
def Ending.IsExit : Ending → Prop
  | .done code => code = 0 ∨ code = 1 ∨ code = 130
  | .stopped code => code = 0 ∨ code = 2

theorem isSome_endOfFailure (user : Text) (f : Fault) : (endOfFailure user f).isSome = f.isTold := by
  cases f <;> rfl

theorem ends_endOfFailure {I : Session → Prop} (hI : IsOpen I) {user : Text} {f : Fault}
    {p : Program Ending} (h : endOfFailure user f = some p) : Ends I P Ending.IsExit p := by
  have htold : ∀ t, Ends I P Ending.IsExit (do printLine t; return .done 1) := fun t =>
    Ends.bind (Ends.printLine hI t) fun _ _ => Ends.pure (.inr (.inl rfl))
  unfold endOfFailure at h
  dsimp only at h
  split at h
  case h_10 =>
    cases h
    exact Ends.bind (Ends.printLine hI _) fun _ _ => Ends.pure (.inr (.inr rfl))
  case h_11 => cases h
  all_goals
    cases h
    exact htold _

/-! ## faults that nothing tells -/

/-- a password is asked of the user: neither the environment nor the command line holds one -/
def AsksPassword (s : Session) (texts : List Text) : Prop :=
  ((Config.lookup? s.environment "MAIL_PASSWORD").getD []) = [] ∧
    Client.optionValue? "password" texts = none

/-- an order that the arguments describe; where they hold no text it carries some quote -/
def IsOrder (a : Arguments) (recipient : Value) (o : Client.Order) : Prop :=
  ∃ text, (a.message = some text ∨ a.message = none ∧ text ≠ none) ∧
    o = ⟨recipient.getD [], a.subject.getD [], text, a.cc.getD [], a.bcc.getD [], a.attachment.getD []⟩

/-- what stops a command line and is told by nothing -/
inductive Escape (config : Config) (texts : List Text) (s : Session) (a : Arguments) : Fault → Prop
  /-- a value of the filter cannot be read, and the reader does not tell -/
  | filter {e : Text} {f : Fault} (ha : a.filter = some (some e))
      (hf : Filter.compile s.zone e = .error f) (hn : ∀ e', f ≠ .filter e') : Escape config texts s a f
  /-- the user interrupts the question for the password -/
  | password {f : Fault} (h : AsksPassword s texts) (hf : s.untyped = some f) :
      Escape config texts s a f
  /-- an answer of the mail server cannot be read, or a message cannot be shown -/
  | reading {tree : Option Tree} {f : Fault} (ha : a.recipient = none)
      (ht : Client.IsTreeOf s.zone (readingOptions a).filter tree)
      (hf : ReadingFault s tree a.download config.maxFilenameLength f) (hn : f.isTold = false) :
      Escape config texts s a f
  /-- the answer for the quote that a mail carries is nested too deeply -/
  | quote {recipient : Value} {c : Json.Container} (ha : a.recipient = some recipient) (hm : a.message = none)
      (hdeep : Web.Buries s) : Escape config texts s a (.tooDeep c)
  /-- the mail cannot be made -/
  | sending {recipient : Value} {o : Client.Order} {password : Text} {f : Fault}
      (ha : a.recipient = some recipient) (ho : IsOrder a recipient o)
      (hf : Client.SendingFault config config.mailUser password s o f) (hn : f.isTold = false) :
      Escape config texts s a f

/-! ## carrying out -/

theorem ends_password (hfault : ∀ f, AsksPassword s₀ texts → s₀.untyped = some f → P f) :
    Ends s₀.Reports P (fun _ => True) (Client.password "MAIL_PASSWORD" "password" "Password: " texts) := by
  have hopen := Session.Reports.isOpen s₀
  refine Ends.session_bind fun s hs => ?_
  obtain ⟨calls, output, rfl⟩ := hs
  dsimp only
  split
  · exact Ends.pure trivial
  case h_2 hnone =>
    split
    · exact Ends.pure trivial
    case h_2 hoption =>
      have hempty : (Config.lookup? s₀.environment "MAIL_PASSWORD").getD [] = [] := by
        rcases hlookup : Config.lookup? s₀.environment "MAIL_PASSWORD" with _ | _ | ⟨c, r⟩
        · rfl
        · rfl
        · exact absurd hlookup (hnone c r)
      refine Ends.bind (Ends.record hopen _) fun _ _ => ?_
      refine Ends.bind (Q := fun _ => True) ?_ fun _ _ => Ends.pure trivial
      cases huntyped : s₀.untyped with
      | none => exact Ends.pure trivial
      | some f => exact Ends.throw (hfault f ⟨hempty, hoption⟩ huntyped)

theorem ends_orderOf (hw : s₀.Worldly) (hP : ∀ f, f.isTold = true → P f)
    (hquote : a.message = none → Web.Buries s₀ → ∀ c, P (.tooDeep c)) (recipient : Value) :
    Ends s₀.Reports P (IsOrder a recipient) (orderOf a recipient) := by
  unfold orderOf
  cases hmessage : a.message with
  | some text =>
    refine Ends.pure_bind (a := text) (Ends.pure ?_)
    exact ⟨text, .inl hmessage, rfl⟩
  | none =>
    refine Ends.bind (Q := fun t => t ≠ none) ?_ fun t ht => Ends.pure ?_
    · have hfault : ∀ f, f.isTold = true ∨ Web.Buries s₀ ∧ (∃ c, f = .tooDeep c) → P f := by
        rintro f (htold | ⟨hdeep, c, rfl⟩)
        · exact hP f htold
        · exact hquote hmessage hdeep c
      exact Ends.bind (ends_fetchQuote hw hfault) fun q _ => Ends.pure nofun
    · exact ⟨t, .inr ⟨hmessage, ht⟩, rfl⟩

end Cli

theorem Session.Reports.follows {s₀ s : Session} (h : s₀.Reports s) : s₀.Follows s := by
  obtain ⟨calls, output, rfl⟩ := h
  exact ⟨rfl, rfl, rfl, rfl, rfl, List.Subset.refl _⟩

namespace Cli

variable {config : Config} {texts : List Text} {a : Arguments} {s₀ s : Session}

/-- a fault that is told in a line, or one that escapes -/
def ToldOrEscapes (config : Config) (texts : List Text) (s : Session) (a : Arguments) (f : Fault) : Prop :=
  f.isTold = true ∨ Escape config texts s a f

theorem toldOrEscapes_of_untold {f : Fault} (h : f.isTold = false → Escape config texts s a f) :
    ToldOrEscapes config texts s a f := by
  cases hf : f.isTold with
  | true => exact .inl hf
  | false => exact .inr (h hf)

/-- what is asked for ends well, with a fault that is told, or with one that escapes -/
theorem toldOrEscapes_of_perform (hw : s₀.Worldly) (hs : s₀.Reports s) (password : Text)
    (hfilter : ∃ tree, Client.IsTreeOf s₀.zone (readingOptions a).filter tree) {f : Fault}
    (hf : ((perform config config.mailUser password a).runIn s).1 = .error f) :
    ToldOrEscapes config texts s₀ a f := by
  have htold : ∀ f : Fault, f.isTold = true → ToldOrEscapes config texts s₀ a f := fun _ h => .inl h
  unfold perform at hf
  cases ha : a.recipient with
  | none =>
    rw [ha] at hf
    obtain ⟨tree, htree⟩ := hfilter
    have hread : Ends s₀.Follows (ToldOrEscapes config texts s₀ a) (fun _ => True)
        (Client.read config config.mailUser password (a.folder.map (·.getD [])) (readingOptions a)) :=
      Client.ends_read hw htold (fun f hf => toldOrEscapes_of_untold fun hn => .reading ha htree hf hn)
        config.mailUser password _ htree rfl rfl
    have hdone := Ends.bind hread fun _ _ => Ends.pure (Q := fun _ => True) (a := ()) trivial
    exact (hdone s hs.follows).2.2 f hf
  | some recipient =>
    rw [ha] at hf
    have horder : Ends s₀.Reports (ToldOrEscapes config texts s₀ a) (IsOrder a recipient)
        (orderOf a recipient) :=
      ends_orderOf hw htold (fun hm hdeep _ => .inr (.quote ha hm hdeep)) recipient
    have hsent : ∀ o, IsOrder a recipient o → Ends s₀.Reports (ToldOrEscapes config texts s₀ a)
        (fun _ => True) (Client.send config config.mailUser password o) := fun o ho =>
      ends_send htold hw fun f hf => toldOrEscapes_of_untold fun hn => .sending ha ho hf hn
    have hdone := Ends.bind horder fun o ho => Ends.bind (hsent o ho) fun _ _ =>
      Ends.pure (Q := fun _ => True) (a := ()) trivial
    exact (hdone s hs).2.2 f hf

/-- the result of a run is an exit code, or a fault that escapes -/
def ExitsOrEscapes (config : Config) (texts : List Text) (s : Session) (a : Arguments)
    (r : Except Fault Ending) : Prop :=
  (∃ e, r = .ok e ∧ e.IsExit) ∨ ∃ f, r = .error f ∧ Escape config texts s a f

/-- a filter that can be read has a tree, and so has no filter -/
theorem exists_isTreeOf {zone : Zone} (h : ∀ v, a.filter = some v → ∃ t, filterTree zone v = .ok t) :
    ∃ tree, Client.IsTreeOf zone (readingOptions a).filter tree := by
  unfold readingOptions
  cases ha : a.filter with
  | none => exact ⟨none, rfl⟩
  | some v =>
    obtain ⟨t, ht⟩ := h v ha
    cases v with
    | none => cases ht
    | some e => exact ⟨some t, t, ht, rfl⟩

theorem exits_refuse (t : Text) :
    ExitsOrEscapes config texts s a ((refuse t).runIn s).1 := .inl ⟨.done 1, rfl, .inr (.inl rfl)⟩

theorem exits_endOfFailure {user : Text} {f : Fault} {p : Program Ending} (h : endOfFailure user f = some p)
    (u : Session) : ExitsOrEscapes config texts s a (p.runIn u).1 := by
  have hends : Ends (fun _ => True) (fun _ => False) Ending.IsExit p :=
    ends_endOfFailure ⟨fun _ _ _ => trivial, fun _ _ _ => trivial⟩ h
  obtain ⟨-, hexit, hfault⟩ := hends u trivial
  cases hend : (p.runIn u).1 with
  | ok e => exact .inl ⟨e, rfl, hexit e hend⟩
  | error f => exact (hfault f hend).elim

/-- the faults that are told are handled, so that only those that escape are left -/
theorem exits_or_escapes_handling {user : Text} {p : Program Unit}
    (hfaults : ∀ f, (p.runIn t).1 = .error f → ToldOrEscapes config texts s a f) :
    ExitsOrEscapes config texts s a ((handling (do p; return .done 0) (endOfFailure user)).runIn t).1 := by
  rw [runIn_handling, runIn_bind]
  cases hp : p.runIn t with
  | mk r u =>
    rw [hp] at hfaults
    cases r with
    | ok _ => exact .inl ⟨.done 0, rfl, .inl rfl⟩
    | error f =>
      dsimp only
      have hsome := isSome_endOfFailure user f
      cases hhandler : endOfFailure user f with
      | none =>
        rw [hhandler] at hsome
        rcases hfaults f rfl with htold | hescape
        · cases hsome.trans htold
        · exact .inr ⟨f, rfl, hescape⟩
      | some q => exact exits_endOfFailure hhandler u

/-- with a user and a filter that can be read, the mail servers are asked -/
theorem exits_or_escapes_of_perform (hw : s.Worldly)
    (hfilter : ∃ tree, Client.IsTreeOf s.zone (readingOptions a).filter tree) :
    ExitsOrEscapes config texts s a ((do
      let password ← Client.password "MAIL_PASSWORD" "password" "Password: " texts
      handling
        (do
          perform config config.mailUser password a
          return .done 0)
        (endOfFailure config.mailUser) : Program Ending).runIn s).1 := by
  -- the question for the password stands outside of what is handled
  have hasked : Ends s.Reports (Escape config texts s a) (fun _ => True)
      (Client.password "MAIL_PASSWORD" "password" "Password: " texts) :=
    ends_password fun f hasked huntyped => .password hasked huntyped
  obtain ⟨hreports, -, hescape⟩ := hasked s (Session.Reports.refl s)
  rw [runIn_bind]
  cases hrun : (Client.password "MAIL_PASSWORD" "password" "Password: " texts).runIn s with
  | mk r t =>
    rw [hrun] at hreports hescape
    cases r with
    | error f => exact .inr ⟨f, rfl, hescape f rfl⟩
    | ok password =>
      exact exits_or_escapes_handling fun f hf => toldOrEscapes_of_perform hw hreports password hfilter hf

/-- arguments that go together end with an exit code, or with a fault that escapes -/
theorem runArguments_ends (hw : s.Worldly) :
    ExitsOrEscapes config texts s a ((runArguments config texts a).runIn s).1 := by
  unfold runArguments
  rw [runIn_bind, runIn_session]
  dsimp only
  split
  case h_1 => exact exits_refuse _
  case h_2 f hother hf =>
    obtain ⟨v, ha, hv⟩ := Option.map_eq_some_iff.1 hf
    cases v with
    | none =>
      -- two dashes in the place of a filter are refused like an empty one
      cases hv
      exact absurd rfl (hother _)
    | some e => exact .inr ⟨f, rfl, .filter ha hv fun e' he' => hother e' (by rw [he'])⟩
  case h_3 hother hfault =>
    split
    · exact exits_refuse _
    · refine exits_or_escapes_of_perform hw (exists_isTreeOf fun v hv => ?_)
      cases ht : filterTree s.zone v with
      | ok t => exact ⟨t, rfl⟩
      | error f => exact (hfault f (by rw [hv, Option.map_some, ht])).elim

/-! ## stopping early -/

/-- a command line that is refused whatever the world is like -/
inductive StopsEarly (config : Config) (zone : Zone) (a : Arguments) : Prop
  /-- its options do not go together -/
  | options {r : Arguments.Refusal} (h : a.refusal? = some r) : StopsEarly config zone a
  /-- its filter is invalid -/
  | filter {v : Value} {e : FilterError} (ha : a.filter = some v)
      (hv : filterTree zone v = .error (.filter e)) : StopsEarly config zone a
  /-- no user is set -/
  | user (hfilter : ∀ v, a.filter = some v → ∃ t, filterTree zone v = .ok t)
      (huser : config.mailUser = []) : StopsEarly config zone a

/-- the run ends with the code of a complaint, and nothing was asked of the world -/
def Refused (s : Session) (run : Except Fault Ending × Session) : Prop :=
  run.1 = .ok (.done 1) ∧ run.2.calls = s.calls

theorem refused_runArguments_of_filter {v : Value} {e : FilterError} (ha : a.filter = some v)
    (hv : filterTree s.zone v = .error (.filter e)) :
    Refused s ((runArguments config texts a).runIn s) := by
  unfold runArguments
  rw [runIn_bind, runIn_session]
  dsimp only
  rw [ha, Option.map_some, hv]
  exact ⟨rfl, rfl⟩

theorem refused_runArguments_of_user (hfilter : ∀ v, a.filter = some v → ∃ t, filterTree s.zone v = .ok t)
    (huser : config.mailUser = []) : Refused s ((runArguments config texts a).runIn s) := by
  unfold runArguments
  rw [runIn_bind, runIn_session]
  dsimp only
  rw [huser]
  cases ha : a.filter with
  | none => exact ⟨rfl, rfl⟩
  | some v =>
    obtain ⟨t, ht⟩ := hfilter v ha
    rw [Option.map_some, ht]
    exact ⟨rfl, rfl⟩

/-! ## command lines -/

theorem runIn_run_of_nil (config : Config) (s : Session) :
    (run config []).runIn s = (.ok (.done 0), { s with output := s.output ++ help }) := rfl

theorem runIn_run_of_error {e : Stop} (hsome : texts ≠ []) (hparse : Arguments.parse texts = .error e) :
    (run config texts).runIn s = (stop e).runIn s := by
  unfold run
  rw [if_neg (by simpa using hsome), hparse]

theorem runIn_run_of_ok (hsome : texts ≠ []) (hparse : Arguments.parse texts = .ok a) :
    (run config texts).runIn s = match a.refusal? with
      | some r => (.ok (.done 1), { s with output := s.output ++ (r.message ++ ['\n']) ++ help })
      | none => (runArguments config texts a).runIn s := by
  unfold run
  rw [if_neg (by simpa using hsome), hparse]
  dsimp only
  cases a.refusal? <;> rfl

theorem isExit_stop (e : Stop) (s : Session) : ∃ end', ((stop e).runIn s).1 = .ok end' ∧ end'.IsExit := by
  cases e with
  | help => exact ⟨.stopped 0, rfl, .inl rfl⟩
  | usage e => exact ⟨.stopped 2, rfl, .inr rfl⟩

/-- a command line that is refused early asks nothing of the world -/
theorem refused_of_stopsEarly (hsome : texts ≠ []) (hparse : Arguments.parse texts = .ok a)
    (hearly : StopsEarly config s.zone a) : Refused s ((run config texts).runIn s) := by
  rw [runIn_run_of_ok hsome hparse]
  cases hrefusal : a.refusal? with
  | some r => exact ⟨rfl, rfl⟩
  | none =>
    cases hearly with
    | options h => cases hrefusal.symm.trans h
    | filter ha hv => exact refused_runArguments_of_filter ha hv
    | user hfilter huser => exact refused_runArguments_of_user hfilter huser

/-- **How a command line ends.**  In a world that raises nothing but its own faults a command line ends
with an exit code, or an answer, a text or a setting could not be read and that fault escapes.  A command
line that is refused early ends with the code of a complaint before anything is asked of the world. -/
theorem run_ends (hw : s.Worldly) :
    ((∃ e, ((run config texts).runIn s).1 = .ok e ∧ e.IsExit) ∨
      ∃ a f, Arguments.parse texts = .ok a ∧ ((run config texts).runIn s).1 = .error f ∧
        Escape config texts s a f) ∧
    ∀ a, texts ≠ [] → Arguments.parse texts = .ok a → StopsEarly config s.zone a →
      Refused s ((run config texts).runIn s) := by
  refine ⟨?_, fun a => refused_of_stopsEarly⟩
  cases texts with
  | nil =>
    rw [runIn_run_of_nil]
    exact .inl ⟨.done 0, rfl, .inl rfl⟩
  | cons t ts =>
    have hsome := List.cons_ne_nil t ts
    cases hparse : Arguments.parse (t :: ts) with
    | error e =>
      rw [runIn_run_of_error hsome hparse]
      exact .inl (isExit_stop e s)
    | ok a =>
      rw [runIn_run_of_ok hsome hparse]
      cases a.refusal? with
      | some r => exact .inl ⟨.done 1, rfl, .inr (.inl rfl)⟩
      | none =>
        have hends : ExitsOrEscapes config (t :: ts) s a ((runArguments config (t :: ts) a).runIn s).1 :=
          runArguments_ends hw
        rcases hends with hexit | ⟨f, hf, hescape⟩
        · exact .inl hexit
        · exact .inr ⟨a, f, rfl, hf, hescape⟩

/-! ## a folder that cannot be counted -/

/-- the settings of a user named Ann, everything else as usual -/
def annSettings : Config where
  imapServer := "imap.provider.com"
  imapPort := 993
  smtpServer := "smtp.provider.com"
  smtpPort := 465
  inbox := "INBOX"
  mailUser := "ann"
  mailDomain := "provider.com"
  mailName := "ann"
  noopInterval := 20
  maxFilenameLength := Config.usualNameLimit
  defaultSubject := Config.usualSubject
  quoteUrl := Web.usualQuoteUrl
  fetchTimeout := Web.usualTimeout
  allowedExtensions := Attachment.sortTexts Attachment.usualExtensions

/-- a session whose mail server answers the choice of a folder with this line -/
def counting (line : Octets) : Session :=
  { Session.quiet with imap := { Session.quiet.imap with select := some (.ok ⟨"OK", some [.line line]⟩) } }

theorem worldly_counting (line : Octets) : (counting line).Worldly where
  imapConnect := nofun
  imapLogin := nofun
  close := nofun
  logout := nofun
  select := fun f hf => by cases hf
  search := fun f hf => by cases hf
  fetch := nofun
  smtpConnect := nofun
  smtpLogin := nofun
  sendMail := nofun
  quit := nofun
  web := nofun
  silence := rfl
  untyped := nofun

/-- an empty folder is read, and a command line that asks for nothing is refused -/
theorem run_ends_counting :
    ((∃ e, ((run annSettings ["-l", "1"]).runIn (counting [48])).1 = .ok e ∧ e.IsExit) ∨
      ∃ a f, Arguments.parse ["-l", "1"] = .ok a ∧
        ((run annSettings ["-l", "1"]).runIn (counting [48])).1 = .error f ∧
        Escape annSettings ["-l", "1"] (counting [48]) a f) ∧
    Refused (counting [48]) ((run annSettings ["-d"]).runIn (counting [48])) := by
  have hnothing : Arguments.parse ["-d"] = .ok { Arguments.none with download := true } := rfl
  exact ⟨(run_ends (worldly_counting [48])).1,
    (run_ends (worldly_counting [48])).2 _ (List.cons_ne_nil _ _) hnothing (.options rfl)⟩

/-- an answer `abc` to the choice of a folder is no count, and the fault escapes -/
theorem run_escapes_counting :
    (counting [97, 98, 99]).Worldly ∧
    ((run annSettings ["-l", "1"]).runIn (counting [97, 98, 99])).1 = .error (.notInteger "b'abc'") ∧
    ¬∃ e, ((run annSettings ["-l", "1"]).runIn (counting [97, 98, 99])).1 = .ok e ∧ e.IsExit := by
  have hrun : ((run annSettings ["-l", "1"]).runIn (counting [97, 98, 99])).1
      = .error (.notInteger "b'abc'") := rfl
  refine ⟨worldly_counting _, hrun, ?_⟩
  rw [hrun]
  rintro ⟨e, he, -⟩
  cases he

end Cli
end Mailroom
