import Mailroom.Proofs.Text.Decimal
import Mailroom.Text.Case

/-!
# ASCII characters and octets

* `forall_ascii`            what holds of the 128 characters holds of every ASCII character;
* `forall_octet`            what holds of the 256 octets holds of every octet;
* `letters_of_asciiLower`   a text whose lower case consists of letters consists of letters;
* `lower_of_ascii`          the lower case of an ASCII text.
-/

namespace Mailroom.Text

/-- what holds of the 128 characters holds of every ASCII character -/
theorem forall_ascii {p : Char → Prop} (hp : ∀ n : Fin 128, p (Char.ofNat n)) {c : Char}
    (h : c.toNat < 128) : p c := by
  have hc := hp ⟨c.toNat, h⟩
  rwa [Char.ofNat_toNat] at hc

/-- what holds of the 256 octets holds of every octet -/
theorem forall_octet {p : UInt8 → Prop} (hp : ∀ n : Fin 256, p (UInt8.ofNat n)) (b : UInt8) : p b := by
  have hb := hp ⟨b.toNat, b.toNat_lt⟩
  rwa [UInt8.ofNat_toNat] at hb

theorem lt_of_isDigit {c : Char} (h : c.isDigit = true) : c.toNat < 128 :=
  forall_digit (p := fun c => c.toNat < 128) (by decide) h

theorem not_isAsciiLetter_of_isDigit {c : Char} (h : c.isDigit = true) : isAsciiLetter c = false :=
  forall_digit (p := fun c => isAsciiLetter c = false) (by decide) h

theorem lt_of_isAsciiLetter {c : Char} (h : isAsciiLetter c = true) : c.toNat < 128 := by
  simp only [isAsciiLetter, Bool.or_eq_true, Bool.and_eq_true, decide_eq_true_eq] at h
  rcases h with ⟨-, h⟩ | ⟨-, h⟩
  · exact Nat.lt_of_le_of_lt (show c.toNat ≤ 'z'.toNat from h) (by decide)
  · exact Nat.lt_of_le_of_lt (show c.toNat ≤ 'Z'.toNat from h) (by decide)

/-! ## lower case -/

theorem toLower_eq_self {c : Char} (hc : 128 ≤ c.toNat) : c.toLower = c := by
  unfold Char.toLower
  split
  · rename_i h
    have hle : c.toNat ≤ 'Z'.toNat := h.2
    exact absurd (hle.trans_lt (by decide : 'Z'.toNat < 128)) (by omega)
  · rfl

theorem isAsciiLetter_of_toLower {c : Char} (h : isAsciiLetter c.toLower = true) :
    isAsciiLetter c = true := by
  by_cases hc : c.toNat < 128
  · exact forall_ascii (p := fun c => isAsciiLetter c.toLower = true → isAsciiLetter c = true)
      (by decide) hc h
  · rwa [toLower_eq_self (by omega)] at h

/-- a text whose lower case consists of letters consists of letters -/
theorem letters_of_asciiLower {s t : Text} (h : asciiLower s = t) (ht : t.all isAsciiLetter = true) :
    ∀ c ∈ s, isAsciiLetter c = true := by
  intro c hc
  refine isAsciiLetter_of_toLower (List.all_eq_true.1 ht _ ?_)
  rw [← h]
  exact List.mem_map_of_mem hc

theorem lowerFrom_of_ascii {past s : Text} (h : ∀ c ∈ s, c.toNat < 128) :
    lowerFrom past s = asciiLower s := by
  induction s generalizing past with
  | nil => rfl
  | cons c r ih =>
    rw [List.forall_mem_cons] at h
    have hchar : lowerChar c = [c.toLower] := if_pos h.1
    have hsigma : ¬c.toNat = 0x3a3 := by omega
    rw [lowerFrom, ih h.2]
    simp [hsigma, hchar, asciiLower]

theorem lower_of_ascii {s : Text} (h : ∀ c ∈ s, c.toNat < 128) : lower s = asciiLower s :=
  lowerFrom_of_ascii h

end Mailroom.Text
