import Mathlib.Data.List.Forall2
import Mailroom.Proofs.Outcome

/-!
# Lists element by element

* `exists_left_of_mem`, `exists_aligned`, `forall_mem_iff_of_aligned`, …   what two lists in the same order
  share;
* `mapM_eq_ok`, `exists_of_mapM_eq_error`   one result for each element of a list, or the fault of one;
* `filterM_eq_ok`   the elements that fulfil a test which can fail;
* `all_or_stop`, `takeWhile_append_of_head`, …   lists up to the first element that fails a test.

What is asked of all elements of a list is decided along the list, also where their type is finite.
-/

namespace Mailroom

-- in front of the instance for all characters
instance (priority := 1100) decidableForallMem {α : Type} (p : α → Prop) [DecidablePred p] (as : List α) :
    Decidable (∀ a ∈ as, p a) :=
  List.decidableBAll p as

/-! ## aligned lists -/

section
variable {α β : Type} {R : α → β → Prop} {as : List α} {bs : List β}

theorem exists_left_of_mem (h : List.Forall₂ R as bs) {b : β} (hb : b ∈ bs) : ∃ a ∈ as, R a b := by
  induction h with
  | nil => cases hb
  | cons hab _ ih =>
    rcases List.mem_cons.1 hb with rfl | hb
    · exact ⟨_, List.mem_cons_self, hab⟩
    · obtain ⟨a, ha, hr⟩ := ih hb
      exact ⟨a, List.mem_cons_of_mem _ ha, hr⟩

theorem exists_right_of_mem (h : List.Forall₂ R as bs) {a : α} (ha : a ∈ as) : ∃ b ∈ bs, R a b := by
  obtain ⟨b, hb, hr⟩ := exists_left_of_mem h.flip ha
  exact ⟨b, hb, hr⟩

theorem exists_aligned (h : ∀ a ∈ as, ∃ b, R a b) : ∃ bs, List.Forall₂ R as bs := by
  induction as with
  | nil => exact ⟨[], .nil⟩
  | cons a as ih =>
    rw [List.forall_mem_cons] at h
    obtain ⟨b, hb⟩ := h.1
    obtain ⟨bs, hbs⟩ := ih h.2
    exact ⟨b :: bs, .cons hb hbs⟩

variable {P : α → Prop} {Q : β → Prop}

theorem forall_mem_iff_of_aligned (h : List.Forall₂ R as bs)
    (hPQ : ∀ a, ∀ b ∈ bs, R a b → (P a ↔ Q b)) : (∀ a ∈ as, P a) ↔ ∀ b ∈ bs, Q b := by
  constructor
  · intro hP b hb
    obtain ⟨a, ha, hr⟩ := exists_left_of_mem h hb
    exact (hPQ a b hb hr).1 (hP a ha)
  · intro hQ a ha
    obtain ⟨b, hb, hr⟩ := exists_right_of_mem h ha
    exact (hPQ a b hb hr).2 (hQ b hb)

theorem exists_mem_iff_of_aligned (h : List.Forall₂ R as bs)
    (hPQ : ∀ a, ∀ b ∈ bs, R a b → (P a ↔ Q b)) : (∃ a ∈ as, P a) ↔ ∃ b ∈ bs, Q b := by
  constructor
  · rintro ⟨a, ha, hP⟩
    obtain ⟨b, hb, hr⟩ := exists_right_of_mem h ha
    exact ⟨b, hb, (hPQ a b hb hr).1 hP⟩
  · rintro ⟨b, hb, hQ⟩
    obtain ⟨a, ha, hr⟩ := exists_left_of_mem h hb
    exact ⟨a, ha, (hPQ a b hb hr).2 hQ⟩

end

/-! ## one result for each element -/

section
variable {ε α β : Type} {f : α → Except ε β} {xs : List α}

theorem mapM_eq_ok {ys : List β} :
    xs.mapM f = .ok ys ↔ List.Forall₂ (fun x y => f x = .ok y) xs ys := by
  induction xs generalizing ys with
  | nil => rw [List.mapM_nil, pure_eq_ok, List.forall₂_nil_left_iff, eq_comm]
  | cons x xs ih =>
    rw [List.mapM_cons, bind_eq_ok]
    constructor
    · rintro ⟨y, hy, h⟩
      obtain ⟨ys', hys, h⟩ := bind_eq_ok.1 h
      cases h
      exact .cons hy (ih.1 hys)
    · intro h
      cases h with
      | cons hy hys => exact ⟨_, hy, bind_eq_ok.2 ⟨_, ih.2 hys, rfl⟩⟩

theorem exists_of_mapM_eq_error {e : ε} (h : xs.mapM f = .error e) : ∃ x ∈ xs, f x = .error e := by
  induction xs with
  | nil => cases h
  | cons x xs ih =>
    rw [List.mapM_cons] at h
    rcases bind_eq_error.1 h with hx | ⟨y, -, h⟩
    · exact ⟨x, List.mem_cons_self, hx⟩
    · rcases bind_eq_error.1 h with hxs | ⟨ys, -, h⟩
      · obtain ⟨x', hx', he⟩ := ih hxs
        exact ⟨x', List.mem_cons_of_mem _ hx', he⟩
      · cases h

/-- all elements have results exactly if each of them has -/
theorem exists_mapM_eq_ok : (∃ ys, xs.mapM f = .ok ys) ↔ ∀ x ∈ xs, ∃ y, f x = .ok y := by
  constructor
  · rintro ⟨ys, h⟩ x hx
    obtain ⟨y, -, hy⟩ := exists_right_of_mem (mapM_eq_ok.1 h) hx
    exact ⟨y, hy⟩
  · intro h
    cases hm : xs.mapM f with
    | ok ys => exact ⟨ys, rfl⟩
    | error e =>
      obtain ⟨x, hx, he⟩ := exists_of_mapM_eq_error hm
      obtain ⟨y, hy⟩ := h x hx
      rw [hy] at he
      cases he

end

/-! ## elements that fulfil a test -/

/-- whether a test that can fail says yes -/
def saysYes {ε : Type} : Except ε Bool → Bool
  | .ok b => b
  | .error _ => false

section
variable {ε α : Type} {p : α → Except ε Bool} {xs kept : List α}

/-- the elements are gathered in front of `acc`, the last one first -/
theorem filterAuxM_eq_ok {acc : List α} :
    xs.filterAuxM p acc = .ok kept ↔
      (∀ x ∈ xs, ∃ b, p x = .ok b) ∧ kept = (xs.filter fun x => saysYes (p x)).reverse ++ acc := by
  induction xs generalizing acc with
  | nil =>
    rw [List.filterAuxM, pure_eq_ok]
    simp [eq_comm]
  | cons x xs ih =>
    rw [List.filterAuxM, bind_eq_ok]
    cases hx : p x with
    | error e => simp [hx]
    | ok b => cases b <;> simp [ih, hx, saysYes]

theorem exists_of_filterAuxM_eq_error {acc : List α} {e : ε} (h : xs.filterAuxM p acc = .error e) :
    ∃ x ∈ xs, p x = .error e := by
  induction xs generalizing acc with
  | nil => cases h
  | cons x xs ih =>
    rcases bind_eq_error.1 h with hx | ⟨b, -, h⟩
    · exact ⟨x, List.mem_cons_self, hx⟩
    · obtain ⟨x', hx', he⟩ := ih h
      exact ⟨x', List.mem_cons_of_mem _ hx', he⟩

/-- the fault of a test is its fault on one of the elements -/
theorem exists_of_filterM_eq_error {e : ε} (h : xs.filterM p = .error e) : ∃ x ∈ xs, p x = .error e := by
  rcases bind_eq_error.1 h with h | ⟨_, -, h⟩
  · exact exists_of_filterAuxM_eq_error h
  · cases h

theorem filterM_eq_ok :
    xs.filterM p = .ok kept ↔
      (∀ x ∈ xs, ∃ b, p x = .ok b) ∧ kept = xs.filter fun x => saysYes (p x) := by
  unfold List.filterM
  rw [bind_eq_ok]
  simp only [filterAuxM_eq_ok, pure_eq_ok, List.append_nil]
  constructor
  · rintro ⟨rs, ⟨hall, rfl⟩, rfl⟩
    exact ⟨hall, List.reverse_reverse _⟩
  · rintro ⟨hall, rfl⟩
    exact ⟨_, ⟨hall, rfl⟩, List.reverse_reverse _⟩

end

/-! ## lists up to a place -/

section
variable {α : Type} {p : α → Bool} {a r : List α} {c : α}

theorem takeWhile_append_of_head (ha : ∀ x ∈ a, p x = true) (hr : ∀ c ∈ r.head?, p c = false) :
    (a ++ r).takeWhile p = a := by
  rw [List.takeWhile_append_of_pos ha]
  cases r with
  | nil => simp
  | cons c r => simp [hr c rfl]

theorem dropWhile_append_of_head (ha : ∀ x ∈ a, p x = true) (hr : ∀ c ∈ r.head?, p c = false) :
    (a ++ r).dropWhile p = r := by
  rw [List.dropWhile_append_of_pos ha]
  cases r with
  | nil => rfl
  | cons c r => simp [hr c rfl]

theorem takeWhile_stop (ha : ∀ x ∈ a, p x = true) (hc : p c = false) :
    (a ++ c :: r).takeWhile p = a :=
  takeWhile_append_of_head ha (by simpa using hc)

theorem dropWhile_stop (ha : ∀ x ∈ a, p x = true) (hc : p c = false) :
    (a ++ c :: r).dropWhile p = c :: r :=
  dropWhile_append_of_head ha (by simpa using hc)

theorem dropWhile_append_stop (xs : List α) (hc : p c = false) :
    (xs ++ c :: r).dropWhile p = xs.dropWhile p ++ c :: r := by
  induction xs with
  | nil => simp [hc]
  | cons x xs ih => cases hx : p x <;> simp [hx, ih]

/-- either all elements pass a test, or there is a first one that does not -/
theorem all_or_stop (p : α → Bool) (xs : List α) :
    (∀ x ∈ xs, p x = true) ∨ ∃ a c r, xs = a ++ c :: r ∧ (∀ x ∈ a, p x = true) ∧ p c = false := by
  induction xs with
  | nil => exact .inl nofun
  | cons x xs ih =>
    cases hx : p x with
    | false => exact .inr ⟨[], x, xs, rfl, nofun, hx⟩
    | true =>
      rcases ih with hall | ⟨a, c, r, rfl, ha, hc⟩
      · exact .inl (List.forall_mem_cons.2 ⟨hx, hall⟩)
      · exact .inr ⟨x :: a, c, r, rfl, List.forall_mem_cons.2 ⟨hx, ha⟩, hc⟩

end

end Mailroom
