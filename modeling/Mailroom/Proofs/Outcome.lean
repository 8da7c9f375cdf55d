import Mathlib.Control.Monad.Basic
import Mailroom.Fault

/-!
# Results and faults

How a result or a fault of a computation in steps comes about.

* `bind_eq_ok`, `bind_eq_error`   two steps one after the other;
* `map_eq_ok`, `map_eq_error`   a step on the result;
* `orFault_eq_ok`, `orFault_eq_error`   a fault made of an error.
-/

namespace Mailroom

section
variable {ε α β : Type}

theorem bind_eq_ok {x : Except ε α} {f : α → Except ε β} {b : β} :
    x >>= f = .ok b ↔ ∃ a, x = .ok a ∧ f a = .ok b := by
  cases x with
  | error e => simp [bind, Except.bind]
  | ok a => simp [bind, Except.bind]

theorem bind_eq_error {x : Except ε α} {f : α → Except ε β} {e : ε} :
    x >>= f = .error e ↔ x = .error e ∨ ∃ a, x = .ok a ∧ f a = .error e := by
  cases x with
  | error e => simp [bind, Except.bind]
  | ok a => simp [bind, Except.bind]

/-- two steps do not end with an error with which neither of them ends -/
theorem bind_ne_error {x : Except ε α} {f : α → Except ε β} {e : ε} (h : x ≠ .error e)
    (h' : ∀ a, f a ≠ .error e) : x >>= f ≠ .error e := by
  rw [Ne, bind_eq_error, not_or]
  exact ⟨h, fun ⟨a, _, hf⟩ => h' a hf⟩

/-- two steps have a result if the first one has, and the second one on it -/
theorem exists_bind_eq_ok {x : Except ε α} {f : α → Except ε β} {a : α} (h : x = .ok a)
    (h' : ∃ b, f a = .ok b) : ∃ b, x >>= f = .ok b := by
  obtain ⟨b, hb⟩ := h'
  exact ⟨b, bind_eq_ok.2 ⟨a, h, hb⟩⟩

theorem exists_bind_eq_ok_iff {x : Except ε α} {f : α → Except ε β} :
    (∃ b, x >>= f = .ok b) ↔ ∃ a, x = .ok a ∧ ∃ b, f a = .ok b := by
  constructor
  · rintro ⟨b, h⟩
    obtain ⟨a, ha, hb⟩ := bind_eq_ok.1 h
    exact ⟨a, ha, b, hb⟩
  · rintro ⟨a, ha, h⟩
    exact exists_bind_eq_ok ha h

theorem exists_bind_pure_eq_ok {x : Except ε α} {f : α → β} :
    (∃ b, (x >>= fun a => pure (f a)) = .ok b) ↔ ∃ a, x = .ok a := by
  rw [exists_bind_eq_ok_iff]
  constructor
  · rintro ⟨a, ha, -⟩
    exact ⟨a, ha⟩
  · rintro ⟨a, ha⟩
    exact ⟨a, ha, f a, rfl⟩

theorem map_eq_ok {x : Except ε α} {f : α → β} {b : β} : x.map f = .ok b ↔ ∃ a, x = .ok a ∧ f a = b := by
  cases x <;> simp [Except.map]

theorem map_eq_error {x : Except ε α} {f : α → β} {e : ε} : x.map f = .error e ↔ x = .error e := by
  cases x <;> simp [Except.map]

theorem pure_eq_ok {a b : α} : (pure a : Except ε α) = .ok b ↔ a = b := by
  simp [pure, Except.pure]

theorem pure_ne_error {a : α} {e : ε} : (pure a : Except ε α) ≠ .error e := by
  simp [pure, Except.pure]

theorem orFault_eq_ok {wrap : ε → Fault} {x : Except ε α} {a : α} :
    orFault wrap x = .ok a ↔ x = .ok a := by
  cases x <;> simp [orFault]

theorem orFault_eq_error {wrap : ε → Fault} {x : Except ε α} {e : Fault} :
    orFault wrap x = .error e ↔ ∃ e', x = .error e' ∧ e = wrap e' := by
  cases x <;> simp [orFault, eq_comm]

end

end Mailroom
