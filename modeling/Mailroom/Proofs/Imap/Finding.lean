import Mailroom.Imap.Fetch
import Mailroom.Proofs.Text.Pieces
import Mathlib.Data.List.Infix

/-!
# Words found in a text

A search for a word passes over a part of a text if no place of the word that begins there passes the
test.

* `findLastAfter?_eq_some`   the last place of a word: behind it, its last character stands behind no
  other such word;
* `findAfter?_append`        the first place of a word: a part that is passed over;
* `findAfter?_append_of_not_mem`, `findAfter?_append_cons`   such parts: without the first character of
  the word, or ending at a character that the word does not hold inside.
-/

namespace Mailroom.Fetch

variable {α : Type} {w k a r s : Text} {c : Char} {test : Text → Option α} {v : α}

theorem after?_append_bind : (Text.after? w (w ++ r) >>= test) = test r := by
  rw [Text.after?_eq_some.2 rfl]
  rfl

theorem after?_bind_eq_none (h : ∀ y, s = w ++ y → test y = none) : (Text.after? w s >>= test) = none := by
  cases hs : Text.after? w s with
  | none => rfl
  | some y => exact h y (Text.after?_eq_some.1 hs)

/-! ## the last place -/

theorem findLastAfter?_append (ha : '\n' ∉ a) (h : findLastAfter? w test s = some v) :
    findLastAfter? w test (a ++ s) = some v := by
  induction a with
  | nil => exact h
  | cons c a ih =>
    rw [List.mem_cons, not_or] at ha
    rw [List.cons_append, findLastAfter?, if_neg (Ne.symm ha.1), ih ha.2]
    rfl

theorem findLastAfter?_eq_none (h : ∀ x y, s = x ++ w ++ y → test y = none) :
    findLastAfter? w test s = none := by
  induction s with
  | nil => exact after?_bind_eq_none fun y hy => h [] y hy
  | cons c s ih =>
    have hhere : (Text.after? w (c :: s) >>= test) = none := after?_bind_eq_none fun y hy => h [] y hy
    have hrest : findLastAfter? w test s = none := ih fun x y hs => h (c :: x) y (by rw [hs]; rfl)
    rw [findLastAfter?, hhere, hrest, ite_self]
    rfl

/-- the last place of a word `k ++ [c]`: behind it, no `c` stands behind another `k` -/
theorem findLastAfter?_eq_some (hne : k ≠ []) (hc : c ∉ k) (ha : '\n' ∉ a ++ k) (hv : test r = some v)
    (hlast : ∀ t y, r = t ++ c :: y → ¬k <:+ t) :
    findLastAfter? (k ++ [c]) test (a ++ (k ++ [c]) ++ r) = some v := by
  rw [List.mem_append, not_or] at ha
  rw [List.append_assoc]
  refine findLastAfter?_append ha.1 ?_
  cases k with
  | nil => exact absurd rfl hne
  | cons d k =>
    have hbehind : findLastAfter? (d :: k ++ [c]) test (k ++ c :: r) = none := by
      refine findLastAfter?_eq_none fun x y h => ?_
      have h : k ++ c :: r = x ++ (d :: k) ++ c :: y := by simpa using h
      have hlong : ∀ u, k ≠ x ++ (d :: k) ++ u := by
        intro u hk
        have hlength := congrArg List.length hk
        simp only [List.length_append, List.length_cons] at hlength
        omega
      rcases Text.append_cons_cases h with ⟨hk, -⟩ | ⟨t, hx, hr⟩ | ⟨t, hk, -⟩
      · exact absurd (hk.trans (List.append_nil _).symm) (hlong [])
      · obtain ⟨u, -, ht⟩ := Text.exists_of_not_mem hc hx
        exact absurd ⟨u, ht.symm⟩ (hlast t y hr)
      · exact absurd hk (hlong (c :: t))
    have hfront : (Text.after? (d :: k ++ [c]) (d :: (k ++ c :: r)) >>= test) = some v := by
      have h : (Text.after? (d :: k ++ [c]) (d :: k ++ [c] ++ r) >>= test) = test r := after?_append_bind
      rw [hv] at h
      simpa using h
    rw [show d :: k ++ [c] ++ r = d :: (k ++ c :: r) by simp, findLastAfter?, hbehind, hfront, ite_self]
    rfl

/-! ## the first place -/

/-- a part of a text is passed over if no place of the word that begins there passes the test -/
theorem findAfter?_append (h : ∀ x y, a ++ s = x ++ w ++ y → x.length < a.length → test y = none) :
    findAfter? w test (a ++ s) = findAfter? w test s := by
  induction a with
  | nil => rfl
  | cons d a ih =>
    have hhere : (Text.after? w (d :: (a ++ s)) >>= test) = none :=
      after?_bind_eq_none fun y hy => h [] y hy (by simp)
    have hrest : findAfter? w test (a ++ s) = findAfter? w test s := by
      refine ih fun x y hs hx => h (d :: x) y ?_ ?_
      · rw [List.cons_append, hs]
        rfl
      · simpa using hx
    rw [List.cons_append, findAfter?, hhere, hrest]
    rfl

theorem findAfter?_append_of_not_mem (ha : c ∉ a) (hw : w.head? = some c) :
    findAfter? w test (a ++ s) = findAfter? w test s := by
  refine findAfter?_append fun x y h hx => absurd ?_ ha
  obtain ⟨k, rfl⟩ := List.head?_eq_some_iff.1 hw
  have hat : (a ++ s)[x.length]? = some c := by
    rw [h, List.append_assoc, List.getElem?_append_right (Nat.le_refl _), Nat.sub_self]
    rfl
  rw [List.getElem?_append_left hx] at hat
  exact List.mem_of_getElem? hat

/-- a part without the last character of the word that ends at a character which does not stand inside
the word: if this is the last character of the word, the word is the part, or its end -/
theorem findAfter?_append_cons {d : Char} (ha : c ∉ a) (hk : d ∉ k)
    (h : d = c → k <:+ a → test s = none) :
    findAfter? (k ++ [c]) test (a ++ d :: s) = findAfter? (k ++ [c]) test s := by
  have hcut : a ++ d :: s = (a ++ [d]) ++ s := by simp
  rw [hcut]
  refine findAfter?_append fun x y hs hx => ?_
  have hend : x ++ k = a → c :: y = d :: s → test y = none := by
    intro hxa hys
    obtain ⟨rfl, rfl⟩ := List.cons.inj hys
    exact h rfl ⟨x, hxa⟩
  have hs : a ++ d :: s = (x ++ k) ++ c :: y := by simpa using hs
  rcases List.append_eq_append_iff.1 hs with ⟨t, hxk, hr⟩ | ⟨t, hak, hr⟩
  · cases t with
    | nil => exact hend (by simpa using hxk) hr.symm
    | cons e t =>
      obtain ⟨rfl, -⟩ := List.cons.inj hr
      obtain ⟨u, rfl, -⟩ := Text.exists_of_not_mem hk hxk
      simp at hx
  · cases t with
    | nil => exact hend (by simpa using hak.symm) hr
    | cons e t =>
      obtain ⟨rfl, -⟩ := List.cons.inj hr
      rw [hak] at ha
      exact absurd (List.mem_append_right (x ++ k) List.mem_cons_self) ha

theorem findAfter?_eq_some (hv : test s = some v) : findAfter? w test (w ++ s) = some v := by
  have hhere : (Text.after? w (w ++ s) >>= test) = some v := after?_append_bind.trans hv
  cases hw : w ++ s with
  | nil => rw [findAfter?, ← hw, hhere]
  | cons c r =>
    rw [findAfter?, ← hw, hhere]
    rfl

end Mailroom.Fetch
