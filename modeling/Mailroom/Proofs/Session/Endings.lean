import Mailroom.Proofs.Session.Runs

/-!
# How programs end

A program that runs in a session with a property ends in a session with that property, with a result or
with a fault.  `Ends` says which results and which faults there can be; its rules go through all ways to
build programs.

* `Ends`              the results and the faults of a program;
* `Ends.bind`, `Ends.ensuring`, `Ends.handling`, …   its rules;
* `IsOpen`            a property that does not look at what was asked of the world and what was printed;
* `Fault.isWorldly`   what servers, connections, the system and the user raise;
* `Session.Worldly`   a session in which they raise nothing else.
-/

namespace Mailroom

/-! ## faults of the world -/

namespace Fault

/-- the user interrupts the program -/
def isInterrupt : Fault → Bool
  | interrupt _ => true
  | _ => false

/-- a server, a connection, the system or the user stops the program -/
def isWorldly (f : Fault) : Bool := f.isImap || f.isSystem || f.isInterrupt

/-- an address is refused -/
def isAddress : Fault → Bool
  | address _ => true
  | _ => false

/-- the program tells of the fault in a line -/
def isTold (f : Fault) : Bool := f.isWorldly || f.isAddress

theorem isTold_of_isWorldly {f : Fault} (h : f.isWorldly = true) : f.isTold = true := by
  rw [isTold, h, Bool.true_or]

end Fault

/-- the fault of a script or of a prompt, if there is one, is one of the world -/
def RaisesWorldly (f? : Option Fault) : Prop := ∀ f, f? = some f → f.isWorldly = true

/-- the servers, the system and the user raise nothing but faults of the world -/
structure Session.Worldly (s : Session) : Prop where
  imapConnect : RaisesWorldly s.imap.connect
  imapLogin : RaisesWorldly s.imap.login
  close : RaisesWorldly s.imap.close
  logout : RaisesWorldly s.imap.logout
  select : ∀ f, s.imap.select = some (.error f) → f.isWorldly = true
  search : ∀ f, .error f ∈ s.imap.search → f.isWorldly = true
  fetch : ∀ f, s.imap.fetch = some (.error f) → f.isWorldly = true
  smtpConnect : RaisesWorldly s.smtp.connect
  smtpLogin : RaisesWorldly s.smtp.login
  sendMail : RaisesWorldly s.smtp.send
  quit : RaisesWorldly s.smtp.quit
  web : ∀ f, s.web.answer = .error f → f.isWorldly = true
  silence : s.silence.isWorldly = true
  untyped : RaisesWorldly s.untyped

namespace Program

variable {α β : Type} {I : Session → Prop} {P : Fault → Prop} {Q : α → Prop} {Q' : β → Prop}

/-! ## results and faults -/

/-- from every session with the property `I` the program comes to one with it, with a result in `Q` or a
fault in `P` -/
def Ends (I : Session → Prop) (P : Fault → Prop) (Q : α → Prop) (p : Program α) : Prop :=
  ∀ s, I s → I (p.runIn s).2 ∧ (∀ a, (p.runIn s).1 = .ok a → Q a) ∧
    ∀ f, (p.runIn s).1 = .error f → P f

theorem Ends.pure {a : α} (ha : Q a) : Ends I P Q (Pure.pure a : Program α) := by
  intro s hs
  refine ⟨hs, fun b hb => ?_, nofun⟩
  cases hb
  exact ha

theorem Ends.settle {r : Except Fault α} (hQ : ∀ a, r = .ok a → Q a) (hP : ∀ f, r = .error f → P f) :
    Ends I P Q (settle r) := fun _ hs => ⟨hs, hQ, hP⟩

theorem Ends.throw {f : Fault} (hf : P f) : Ends I P Q (throw f : Program α) := by
  intro s hs
  refine ⟨hs, nofun, fun g hg => ?_⟩
  cases hg
  exact hf

theorem Ends.bind {p : Program α} {k : α → Program β} (hp : Ends I P Q p)
    (hk : ∀ a, Q a → Ends I P Q' (k a)) : Ends I P Q' (p >>= k) := by
  intro s hs
  obtain ⟨hI, hQ, hP⟩ := hp s hs
  rw [runIn_bind]
  cases h : p.runIn s with
  | mk r t =>
    rw [h] at hI hQ hP
    cases r with
    | ok a => exact hk a (hQ a rfl) t hI
    | error f => exact ⟨hI, nofun, fun g hg => hP g (by cases hg; rfl)⟩

theorem Ends.pure_bind {a : α} {k : α → Program β} (hk : Ends I P Q' (k a)) :
    Ends I P Q' (Pure.pure a >>= k) := by
  refine Ends.bind (Q := fun b => b = a) (Ends.pure rfl) fun b hb => ?_
  rw [hb]
  exact hk

/-- a program that looks at the session first -/
theorem Ends.session_bind {k : Session → Program β} (hk : ∀ s, I s → Ends I P Q' (k s)) :
    Ends I P Q' (session >>= k) := by
  intro s hs
  rw [runIn_bind, runIn_session]
  exact hk s hs s hs

theorem Ends.change {f : Session → Session} (h : ∀ s, I s → I (f s)) :
    Ends I P (fun _ => True) (change f) := fun s hs => ⟨h s hs, fun _ _ => trivial, nofun⟩

theorem Ends.ensuring {body : Program α} {after : Program Unit} (hbody : Ends I P Q body)
    (hafter : Ends I P (fun _ => True) after) : Ends I P Q (ensuring body after) := by
  intro s hs
  obtain ⟨hI, hQ, hP⟩ := hbody s hs
  rw [runIn_ensuring]
  cases hb : body.runIn s with
  | mk r t =>
    rw [hb] at hI hQ hP
    obtain ⟨hI', -, hP'⟩ := hafter t hI
    dsimp only
    cases ha : after.runIn t with
    | mk r' u =>
      rw [ha] at hI' hP'
      cases r' with
      | ok _ => exact ⟨hI', hQ, hP⟩
      | error f => exact ⟨hI', nofun, fun g hg => hP' g (by cases hg; rfl)⟩

/-- a handler ends what it takes, and the other faults stay -/
theorem Ends.handling {P' : Fault → Prop} {body : Program α} {handler : Fault → Option (Program α)}
    (hbody : Ends I P' Q body) (htaken : ∀ f p, P' f → handler f = some p → Ends I P Q p)
    (hleft : ∀ f, P' f → handler f = none → P f) : Ends I P Q (handling body handler) := by
  intro s hs
  obtain ⟨hI, hQ, hP⟩ := hbody s hs
  rw [runIn_handling]
  cases hb : body.runIn s with
  | mk r t =>
    rw [hb] at hI hQ hP
    cases r with
    | ok a => exact ⟨hI, hQ, nofun⟩
    | error f =>
      dsimp only
      cases hf : handler f with
      | none => exact ⟨hI, nofun, fun g hg => by cases hg; exact hleft f (hP f rfl) hf⟩
      | some p => exact htaken f p (hP f rfl) hf t hI

theorem Ends.ignoring {P' : Fault → Prop} {kind : Fault → Bool} {body : Program Unit}
    (hbody : Ends I P' (fun _ => True) body) (hleft : ∀ f, P' f → kind f = false → P f) :
    Ends I P (fun _ => True) (ignoring kind body) := by
  refine Ends.handling hbody (fun f p _ hp => ?_) fun f hf hnone => ?_
  · split at hp
    · cases hp
      exact Ends.pure trivial
    · cases hp
  · split at hnone
    · cases hnone
    case isFalse h => exact hleft f hf (Bool.eq_false_iff.2 h)

theorem Ends.forM {xs : List α} {k : α → Program PUnit}
    (hk : ∀ a ∈ xs, Ends I P (fun _ => True) (k a)) : Ends I P (fun _ => True) (xs.forM k) := by
  -- each step comes back to a session with the property, and the rest starts from there
  induction xs with
  | nil => exact Ends.pure trivial
  | cons x xs ih =>
    exact Ends.bind (hk x List.mem_cons_self) fun _ _ => ih fun a ha => hk a (List.mem_cons_of_mem _ ha)

/-! ## records -/

/-- a property that does not look at what was asked of the world and what was printed -/
structure IsOpen (I : Session → Prop) : Prop where
  calls : ∀ s calls, I s → I { s with calls }
  output : ∀ s output, I s → I { s with output }

section
variable (hI : IsOpen I)
include hI

theorem Ends.record (c : Call) : Ends I P (fun _ => True) (record c) :=
  Ends.change fun s => hI.calls s _

theorem Ends.print (t : Text) : Ends I P (fun _ => True) (print t) :=
  Ends.change fun s => hI.output s _

theorem Ends.printLine (t : Text) : Ends I P (fun _ => True) (printLine t) := Ends.print hI _

/-- a command that can do nothing but raise the fault of its script -/
theorem Ends.command (c : Call) {field : Session → Option Fault}
    (h : ∀ s, I s → ∀ f, field s = some f → P f) :
    Ends I P (fun _ => True) (do Program.record c; complain (field (← session))) := by
  refine Ends.bind (Ends.record hI c) fun _ _ => Ends.session_bind fun s hs => ?_
  have hfault := h s hs
  cases hfield : field s with
  | none => exact Ends.pure trivial
  | some f => exact Ends.throw (hfault f hfield)

end

end Program
end Mailroom
