import Mailroom.Client.Config
import Mailroom.Session.Program

/-!
# Runs step by step

What a program does to the session it runs in.

* `runIn_bind`, `runIn_settle`, `runIn_session`, `runIn_change`, …   the steps of a run;
* `runIn_bind_eq_ok`   the steps of a run that ends with a result;
* `Keeps`   a program changes every session only as a relation allows, whether it ends with a result or
  with a fault; for a relation that holds at rest and from one step to the next, `Keeps` goes through
  all ways to build programs.
-/

namespace Mailroom

/-- a session to try programs in: an empty home directory, and servers that have nothing to tell -/
def Session.quiet : Session where
  zone := .utc
  disk := ⟨"/home/ann", ["home", "ann"], []⟩
  imap := ⟨none, none, none, none, none, [], [], none, []⟩
  smtp := ⟨none, none, none, none⟩
  web := ⟨.ok ([], 200)⟩
  answers := []
  typed := []
  environment := []
  now := 0
  serial := "00000000-0000-4000-8000-000000000000"
  messageId := []
  boundary := []
  calls := []
  output := []
  complaints := []

/-- settings to try programs with: those of a user named Ann -/
def Config.plain : Config :=
  ⟨"imap.c.org", 993, "smtp.c.org", 465, "INBOX", "ann", "c.org", "Ann", 20, 150, [], [], 30, ["txt"]⟩

namespace Program

variable {α β : Type}

/-! ## steps -/

theorem runIn_bind (p : Program α) (k : α → Program β) (s : Session) :
    (p >>= k).runIn s = match p.runIn s with
      | (.ok a, s') => (k a).runIn s'
      | (.error f, s') => (.error f, s') := by
  unfold runIn
  show ExceptT.bindCont k (p s).1 (p s).2 = _
  cases p s with
  | mk r s' => cases r <;> rfl

/-- a run that ends with a result has results at all of its steps -/
theorem runIn_bind_eq_ok {p : Program α} {k : α → Program β} {s t : Session} {b : β} :
    (p >>= k).runIn s = (.ok b, t) ↔
      ∃ a u, p.runIn s = (.ok a, u) ∧ (k a).runIn u = (.ok b, t) := by
  rw [runIn_bind]
  cases p.runIn s with
  | mk r u =>
    cases r with
    | ok a =>
      constructor
      · exact fun h => ⟨a, u, rfl, h⟩
      · rintro ⟨a', u', h, h'⟩
        cases h
        exact h'
    | error f =>
      constructor
      · exact nofun
      · rintro ⟨a', u', h, -⟩
        cases h

theorem runIn_settle (r : Except Fault α) (s : Session) : (settle r).runIn s = (r, s) := rfl

theorem runIn_settle_eq_ok {r : Except Fault α} {s t : Session} {a : α} :
    (settle r).runIn s = (.ok a, t) ↔ r = .ok a ∧ s = t := by
  rw [runIn_settle, Prod.mk.injEq]

/-- a result at the front of a program: the rest goes on with it, a fault stops the run -/
theorem runIn_settle_bind (r : Except Fault α) (k : α → Program β) (s : Session) :
    (settle r >>= k).runIn s = match r with
      | .ok a => (k a).runIn s
      | .error f => (.error f, s) := by
  rw [runIn_bind, runIn_settle]
  cases r <;> rfl

theorem runIn_session (s : Session) : session.runIn s = (.ok s, s) := rfl

theorem runIn_change (f : Session → Session) (s : Session) : (change f).runIn s = (.ok (), f s) := rfl

theorem runIn_bind_pure (p : Program α) (f : α → β) (s : Session) :
    (p >>= fun a => pure (f a)).runIn s = ((p.runIn s).1.map f, (p.runIn s).2) := by
  rw [runIn_bind]
  cases p.runIn s with
  | mk r t => cases r <;> rfl

theorem runIn_map (f : α → β) (p : Program α) (s : Session) :
    (f <$> p).runIn s = ((p.runIn s).1.map f, (p.runIn s).2) := by
  rw [map_eq_pure_bind]
  exact runIn_bind_pure p f s

theorem runIn_ensuring (body : Program α) (after : Program Unit) (s : Session) :
    (ensuring body after).runIn s = match body.runIn s with
      | (r, t) => match after.runIn t with
        | (.ok _, u) => (r, u)
        | (.error f, u) => (.error f, u) := rfl

theorem runIn_handling (body : Program α) (handler : Fault → Option (Program α)) (s : Session) :
    (handling body handler).runIn s = match body.runIn s with
      | (.ok a, t) => (.ok a, t)
      | (.error f, t) => match handler f with
        | some p => p.runIn t
        | none => (.error f, t) := by
  unfold runIn handling
  cases body s with
  | mk r t => cases r <;> rfl

/-! ## what all steps keep -/

/-- the program changes a session only as the relation allows -/
def Keeps (R : Session → Session → Prop) (p : Program α) : Prop := ∀ s, R s (p.runIn s).2

/-- a relation that holds at rest and from one step to the next -/
structure IsFrame (R : Session → Session → Prop) : Prop where
  refl : ∀ s, R s s
  trans : ∀ {s t u}, R s t → R t u → R s u

/-- what does not look at the output is kept when a line is printed -/
theorem Keeps.printLine {R : Session → Session → Prop} (hprint : ∀ s output, R s { s with output })
    (t : Text) : Keeps R (printLine t) := fun s => hprint s _

section
variable {R : Session → Session → Prop} (hR : IsFrame R)
include hR

theorem Keeps.pure (a : α) : Keeps R (Pure.pure a : Program α) := fun s => hR.refl s

theorem Keeps.settle (r : Except Fault α) : Keeps R (settle r) := fun s => hR.refl s

theorem Keeps.session : Keeps R session := fun s => hR.refl s

theorem Keeps.bind {p : Program α} {k : α → Program β} (hp : Keeps R p) (hk : ∀ a, Keeps R (k a)) :
    Keeps R (p >>= k) := by
  intro s
  have hfirst := hp s
  rw [runIn_bind]
  cases h : p.runIn s with
  | mk r t =>
    rw [h] at hfirst
    cases r with
    | ok a => exact hR.trans hfirst (hk a t)
    | error f => exact hfirst

theorem Keeps.forM {ls : List α} {k : α → Program PUnit} (hk : ∀ a, Keeps R (k a)) :
    Keeps R (ls.forM k) := by
  induction ls with
  | nil => exact Keeps.pure hR _
  | cons a ls ih => exact Keeps.bind hR (hk a) fun _ => ih

end

end Program
end Mailroom
