import Mailroom.Codec.Base64
import Mathlib.Data.List.Basic

/-!
# Base 64 is read back

* `IsDigit`               the characters that encoding gives; none is a line break or a hyphen;
* `decodeFrom_first`, …   what the letters of a group do to the reading;
* `decode?_encode`        what was encoded is read back;
* `exists_encodeLines`    encoded lines are cut between whole groups, and together are the octets encoded;
* `decodeLax_encodeLines` what was encoded in lines is read back.
-/

namespace Mailroom.Base64

variable {a b : Octets}

/-! ## letters -/

theorem value?_letter {n : Nat} (h : n < 64) : value? (letter n) = some n := by
  have hall : ∀ n : Fin 64, value? (letter n) = some n.val := by decide
  exact hall ⟨n, h⟩

theorem letter_ne_pad {n : Nat} (h : n < 64) : letter n ≠ pad := by
  have hall : ∀ n : Fin 64, letter n ≠ pad := by decide
  exact hall ⟨n, h⟩

/-- a character that encoding can give -/
def IsDigit (c : UInt8) : Prop := c = pad ∨ ∃ n < 64, c = letter n

theorem isDigit_pad : IsDigit pad := .inl rfl

theorem isDigit_letter {n : Nat} (h : n < 64) : IsDigit (letter n) := .inr ⟨n, h, rfl⟩

/-- encoding gives no line break and no hyphen -/
theorem IsDigit.ne {c : UInt8} (h : IsDigit c) : c ≠ 10 ∧ c ≠ 13 ∧ c ≠ 45 := by
  obtain rfl | ⟨n, hn, rfl⟩ := h
  · decide
  · have hall : ∀ n : Fin 64, letter n ≠ 10 ∧ letter n ≠ 13 ∧ letter n ≠ 45 := by decide
    exact hall ⟨n, hn⟩

theorem isDigit_of_mem_encode : ∀ {c : UInt8}, c ∈ encode b → IsDigit c := by
  intro c hc
  fun_induction encode b with
  | case1 => cases hc
  | case2 x n =>
    have hx := x.toNat_lt
    simp only [List.mem_cons, List.not_mem_nil, or_false] at hc
    rcases hc with rfl | rfl | rfl | rfl
    · exact isDigit_letter (by omega)
    · exact isDigit_letter (by omega)
    · exact isDigit_pad
    · exact isDigit_pad
  | case3 x y n =>
    have hx := x.toNat_lt
    have hy := y.toNat_lt
    simp only [List.mem_cons, List.not_mem_nil, or_false] at hc
    rcases hc with rfl | rfl | rfl | rfl
    · exact isDigit_letter (by omega)
    · exact isDigit_letter (by omega)
    · exact isDigit_letter (by omega)
    · exact isDigit_pad
  | case4 x y z r n ih =>
    have hx := x.toNat_lt
    have hy := y.toNat_lt
    have hz := z.toNat_lt
    simp only [List.mem_cons] at hc
    rcases hc with rfl | rfl | rfl | rfl | hc
    · exact isDigit_letter (by omega)
    · exact isDigit_letter (by omega)
    · exact isDigit_letter (by omega)
    · exact isDigit_letter (by omega)
    · exact ih hc

/-! ## reading -/

/-! A letter leaves its low bits for the next one, and behind the first of a group it completes an octet. -/

section
variable {n : Nat} (h : n < 64) (held pads : Nat) (r : Octets)
include h

theorem decodeFrom_first : decodeFrom 0 held pads (letter n :: r) = decodeFrom 1 n 0 r := by
  rw [decodeFrom, if_neg (letter_ne_pad h), value?_letter h]
  rfl

theorem decodeFrom_second : decodeFrom 1 held pads (letter n :: r) =
    (decodeFrom 2 (n % 16) 0 r).map (UInt8.ofNat (held * 4 + n / 16) :: ·) := by
  rw [decodeFrom, if_neg (letter_ne_pad h), value?_letter h]
  rfl

theorem decodeFrom_third : decodeFrom 2 held pads (letter n :: r) =
    (decodeFrom 3 (n % 4) 0 r).map (UInt8.ofNat (held * 16 + n / 4) :: ·) := by
  rw [decodeFrom, if_neg (letter_ne_pad h), value?_letter h]
  rfl

theorem decodeFrom_fourth : decodeFrom 3 held pads (letter n :: r) =
    (decodeFrom 0 0 0 r).map (UInt8.ofNat (held * 64 + n) :: ·) := by
  rw [decodeFrom, if_neg (letter_ne_pad h), value?_letter h]
  rfl

end

theorem ofNat_eq {n : Nat} {x : UInt8} (h : n = x.toNat) : UInt8.ofNat n = x := by
  rw [h, UInt8.ofNat_toNat]

/-- **What was encoded is read back.** -/
theorem decode?_encode (b : Octets) : decode? (encode b) = some b := by
  unfold decode?
  fun_induction encode b with
  | case1 => rfl
  | case2 x n =>
    have hx := x.toNat_lt
    have hfirst : n / 64 * 4 + n % 64 / 16 = x.toNat := by omega
    rw [decodeFrom_first (by omega), decodeFrom_second (by omega), ofNat_eq hfirst]
    rfl
  | case3 x y n =>
    have hx := x.toNat_lt
    have hy := y.toNat_lt
    have hfirst : n / 4096 * 4 + n / 64 % 64 / 16 = x.toNat := by omega
    have hsecond : n / 64 % 64 % 16 * 16 + n % 64 / 4 = y.toNat := by omega
    rw [decodeFrom_first (by omega), decodeFrom_second (by omega),
      decodeFrom_third (by omega), ofNat_eq hfirst, ofNat_eq hsecond]
    rfl
  | case4 x y z r n ih =>
    have hx := x.toNat_lt
    have hy := y.toNat_lt
    have hz := z.toNat_lt
    have hfirst : n / 262144 * 4 + n / 4096 % 64 / 16 = x.toNat := by omega
    have hsecond : n / 4096 % 64 % 16 * 16 + n / 64 % 64 / 4 = y.toNat := by omega
    have hthird : n / 64 % 64 % 4 * 64 + n % 64 = z.toNat := by omega
    rw [decodeFrom_first (by omega), decodeFrom_second (by omega),
      decodeFrom_third (by omega), decodeFrom_fourth (by omega), ofNat_eq hfirst,
      ofNat_eq hsecond, ofNat_eq hthird, ih]
    rfl

/-! ## lines -/

/-- whole groups are encoded by themselves -/
theorem encode_append (h : 3 ∣ a.length) : encode (a ++ b) = encode a ++ encode b := by
  fun_induction encode a with
  | case1 => rfl
  | case2 x n => exact absurd h (by simp)
  | case3 x y n => exact absurd h (by simp)
  | case4 x y z r n ih =>
    have hr : 3 ∣ r.length := by
      simp only [List.length_cons] at h
      omega
    show encode (x :: y :: z :: (r ++ b)) = _
    rw [encode, ih hr]
    rfl

/-- octets are encoded in lines, which together are the octets encoded -/
theorem exists_encodeLines {groups : Nat} (hgroups : 0 < groups) (b : Octets) :
    ∃ ls : List Octets, encodeLines groups b = (ls.flatMap fun l => l ++ [10]) ∧ ls.flatten = encode b := by
  have hgo : ∀ n b, b.length ≤ n → ∃ ls : List Octets,
      encodeLines.go groups n b = (ls.flatMap fun l => l ++ [10]) ∧ ls.flatten = encode b := by
    intro n
    induction n with
    | zero =>
      intro b hb
      rw [List.length_eq_zero_iff.1 (Nat.le_zero.1 hb)]
      exact ⟨[], rfl, rfl⟩
    | succ n ih =>
      intro b hb
      rcases eq_or_ne b [] with rfl | hne
      · exact ⟨[], rfl, rfl⟩
      have hpos := List.length_pos_iff.2 hne
      obtain ⟨ls, hls, hflat⟩ := ih (b.drop (3 * groups)) (by
        rw [List.length_drop]
        omega)
      have hgo : encodeLines.go groups (n + 1) b =
          encode (b.take (3 * groups)) ++ [10] ++ encodeLines.go groups n (b.drop (3 * groups)) := by
        obtain ⟨x, r, rfl⟩ := List.exists_cons_of_ne_nil hne
        rfl
      refine ⟨encode (b.take (3 * groups)) :: ls, ?_, ?_⟩
      · rw [hgo, hls, List.flatMap_cons]
      · rw [List.flatten_cons, hflat]
        -- the first line is whole groups, or there is nothing behind it
        rcases Nat.le_total (3 * groups) b.length with hlong | hshort
        · have hwhole : 3 ∣ (b.take (3 * groups)).length := by
            rw [List.length_take_of_le hlong]
            exact Nat.dvd_mul_right 3 groups
          rw [← encode_append hwhole, List.take_append_drop]
        · rw [List.take_of_length_le hshort, List.drop_eq_nil_of_le hshort, encode, List.append_nil]
  exact hgo b.length b (Nat.le_refl _)

theorem filter_encodeLines {groups : Nat} (hgroups : 0 < groups) (b : Octets) :
    (encodeLines groups b).filter (fun c => c ≠ 10 ∧ c ≠ 13) = encode b := by
  obtain ⟨ls, hls, hflat⟩ := exists_encodeLines hgroups b
  have hkept : ∀ l ∈ ls, (l ++ [10]).filter (fun c => c ≠ 10 ∧ c ≠ 13) = l := by
    intro l hl
    rw [List.filter_append, List.filter_eq_self.2]
    · exact List.append_nil l
    · intro c hc
      have hdigit := isDigit_of_mem_encode (b := b) (hflat ▸ List.mem_flatten_of_mem hl hc)
      simp [hdigit.ne]
  rw [hls, List.filter_flatMap, List.flatMap_congr hkept, ← hflat, List.flatMap_id']

/-- **What was encoded in lines is read back.** -/
theorem decodeLax_encodeLines {groups : Nat} (hgroups : 0 < groups) (b : Octets) :
    decodeLax ((encodeLines groups b).filter fun c => c ≠ 10 ∧ c ≠ 13) = b := by
  rw [filter_encodeLines hgroups, decodeLax, decode?_encode]

end Mailroom.Base64
