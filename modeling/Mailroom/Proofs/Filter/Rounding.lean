import Mathlib.Algebra.Order.Floor.Semifield
import Mathlib.Data.Nat.GCD.Basic
import Mathlib.Data.Nat.Prime.Basic
import Mathlib.Data.Rat.Floor
import Mailroom.Filter.Size
import Mailroom.Proofs.Number.Nearest

/-!
# Rounded sizes

The bytes of a size are found in two steps, each of which rounds to a binary fraction: the number is
read and multiplied with its unit, and one half is added before the part behind the point is dropped.
Both steps are exact for most sizes and not for all.

* `succ_le_iff_half_le`   what the second step does to a fraction, up to `2 ^ 52` bytes;
* `succ_le_iff`, `one_le_iff`   from where on a size has some bytes;
* `even_of_floor`, `le_of_even`, `le_of_lt_even`   what they give from `2 ^ 52` bytes on;
* `Rounds`           the sizes that are rounded half up;
* `floor_eq_iff`     two steps round half up exactly these;
* `IsSize`           the number and the unit of a size;
* `parseSize_eq_floor_iff`   the accepted sizes that are rounded half up.
-/

namespace Mailroom

/-- the number that a decimal text stands for -/
def DecimalText.value (d : DecimalText) : ℚ := d.digits / 10 ^ d.places

namespace Filter

open Binary

/-! ## two steps -/

theorem two_pow_dvd_odd_mul_iff {a b j : Nat} : 2 ^ a ∣ (2 * j + 1) * 2 ^ b ↔ a ≤ b := by
  have hodd : Nat.Coprime (2 ^ a) (2 * j + 1) := by
    apply Nat.Coprime.pow_left
    rw [Nat.coprime_two_left]
    exact ⟨j, rfl⟩
  rw [Nat.Coprime.dvd_mul_left hodd]
  exact Nat.pow_dvd_pow_iff_le_right (by decide)

section
variable {x y z : ℚ} (hy : IsNearest 54 x y) (hz : IsNearest 54 (y + 1 / 2) z)
include hy hz

section
variable {j : Nat} (hj : 1 ≤ j) (hj' : j < 2 ^ 52)
include hj hj'

/-- the second step passes a whole number from the middle below it on -/
theorem succ_le_iff_half_le : (j : ℚ) + 1 ≤ z ↔ (j : ℚ) + 1 / 2 ≤ y := by
  have hwhole : IsWhole (j + 1) := isWhole_of_le (by omega) (by omega)
  have hodd : IsWhole (2 * j + 1) := isWhole_of_le (by omega) (by omega)
  have hbelow : below (2 * j + 1) = 2 * below (j + 1) := by
    rw [below, below, Nat.add_sub_cancel, Nat.add_sub_cancel, Nat.log2_two_mul (by omega), pow_succ]
    ring
  have hpos := below_pos (j + 1)
  have hgap := hy.add_le (2 * j + 1) 1 hodd (by decide)
  have hmiddle := hz.le_iff (j + 1) 0 hwhole (by decide)
  rw [hbelow] at hgap
  push_cast at hgap hmiddle
  constructor
  · intro h
    by_contra hlow
    have hgap := hgap (by linarith)
    rcases hmiddle.1 (by linarith) with hreach | ⟨hreach, -⟩ <;> linarith
  · intro h
    have hreach := hmiddle.2 (.inl (by linarith))
    linarith

/-- from where on a size has more than one byte, and more than two, and so on -/
theorem succ_le_iff : (j : ℚ) + 1 ≤ z ↔ (j : ℚ) + 1 / 2 - 2 ^ j.log2 / 2 ^ 53 < x ∨
    (j : ℚ) + 1 / 2 - 2 ^ j.log2 / 2 ^ 53 = x ∧ j.log2 < 51 := by
  have hodd : IsWhole (2 * j + 1) := isWhole_of_le (by omega) (by omega)
  have hmiddle := hy.le_iff (2 * j + 1) 1 hodd (by decide)
  have heven : j.log2 + 1 + 1 ≤ 52 ↔ j.log2 < 51 := by omega
  have hdouble : (2 : ℚ) ^ (j.log2 + 1) = 2 * 2 ^ j.log2 := pow_succ' _ _
  rw [below, Nat.add_sub_cancel, Nat.log2_two_mul (by omega), two_pow_dvd_odd_mul_iff, heven, hdouble]
    at hmiddle
  rw [succ_le_iff_half_le hy hz hj hj']
  push_cast at hmiddle
  constructor
  · intro h
    rcases hmiddle.1 (by linarith) with hreach | ⟨hreach, hlog⟩
    · left
      linarith
    · right
      exact ⟨by linarith, hlog⟩
  · intro h
    have hreach := hmiddle.2 (by
      rcases h with h | ⟨h, hlog⟩
      · left
        linarith
      · right
        exact ⟨by linarith, hlog⟩)
    linarith

end

/-- from where on a size has a byte -/
theorem one_le_iff : 1 ≤ z ↔ 1 / 2 - 3 / 2 ^ 55 < x := by
  have hlog : (2 ^ 53 - 1 - 1 : Nat).log2 = 52 := by decide
  have hlast := hz.le_iff 2 1 (isWhole_of_le (by decide) (by decide)) (by decide)
  have hmiddle := hy.le_iff (2 ^ 53 - 1) 54 (isWhole_of_le (by decide) (by decide)) (by decide)
  rw [below, hlog] at hmiddle
  have hodd : ¬2 ^ (52 + 1) ∣ (2 ^ 53 - 1) * 2 ^ 52 := by decide
  have heven : 2 ^ ((2 - 1).log2 + 1) ∣ 2 * 2 ^ 52 := by decide
  simp only [hodd, and_false, or_false] at hmiddle
  simp only [heven, and_true] at hlast
  have hbelow : below 2 = 1 / 2 ^ 52 := by
    rw [below, show (2 - 1 : Nat).log2 = 0 by decide, pow_zero]
  rw [hbelow] at hlast
  push_cast at hlast hmiddle
  have hhalf : 1 ≤ z ↔ 9007199254740991 ≤ y * 2 ^ 54 := by
    constructor
    · intro h
      rcases hlast.1 (by linarith) with h | h <;> linarith
    · intro h
      have hreach := hlast.2 (lt_or_eq_of_le (by linarith))
      linarith
  rw [hhalf, hmiddle]
  constructor <;> (intro h; linarith)

/-- from `2 ^ 52` bytes on the result is even, and has no more bits than a fraction -/
theorem even_of_floor {n : Nat} (hn : 2 ^ 52 ≤ n) (hle : (n : ℚ) ≤ z) (hlt : z < n + 1) :
    2 ∣ n ∧ IsFraction n := by
  have hfraction := hz.isFraction hn hle hlt
  refine ⟨?_, hfraction⟩
  by_cases hlarge : 2 ^ 53 ≤ n
  · have hlog : 53 ≤ n.log2 := (Nat.le_log2 (by omega)).2 hlarge
    exact (dvd_pow_self 2 (by omega)).trans hfraction
  · by_contra hodd
    obtain ⟨j, rfl⟩ : ∃ j, n = j + 1 := Nat.exists_eq_succ_of_ne_zero (by omega)
    push_cast at hle hlt
    -- with one half added to an odd number, the even one above it is the nearest
    obtain ⟨hpass, -⟩ := hz.succ_le_iff (n := j) (by omega) (by omega)
    obtain ⟨hnext, -⟩ := hz.succ_le_iff (n := j + 1) (by omega) (by omega)
    obtain ⟨-, hgap⟩ := hy.succ_le_iff (n := j) (by omega) (by omega)
    push_cast at hnext
    have hreached : (j : ℚ) + 1 ≤ y := by
      by_contra hlow
      have hgap := hgap (by linarith)
      rcases hpass.1 hle with hreach | ⟨-, heven⟩
      · linarith
      · exact hodd heven
    rcases lt_or_eq_of_le hreached with h | h
    · linarith [hnext.2 (.inl (by linarith))]
    · linarith [hnext.2 (.inr ⟨by linarith, by omega⟩)]

section
variable {r : Nat} (hr : 2 ^ 52 ≤ r) (heven : 2 ∣ r) (hd : IsFraction r)
include hr heven hd

/-- an even number of bytes that is a fraction is reached if it is the right one -/
theorem le_of_even (hlow : (r : ℚ) - 1 / 2 ≤ x) : (r : ℚ) ≤ z := by
  have hwhole : IsWhole r := hd.isWhole (by omega)
  have hreached : (r : ℚ) ≤ y + 1 / 2 := by
    rcases Nat.eq_or_lt_of_le hr with hfirst | hr
    · -- below `2 ^ 52` the middle is a fraction itself
      have hodd := hy.le_of_le (c := 2 ^ 53 - 1) (i := 1) (isWhole_of_le (by decide) (by decide))
        (by decide)
      rw [← hfirst] at hlow ⊢
      push_cast at hlow hodd ⊢
      linarith [hodd (by linarith)]
    by_cases hsmall : r ≤ 2 ^ 53
    · obtain ⟨j, rfl⟩ : ∃ j, r = j + 1 := Nat.exists_eq_succ_of_ne_zero (by omega)
      obtain ⟨hyle, -⟩ := hy.succ_le_iff (n := j) (by omega) (by omega)
      push_cast at hlow ⊢
      rcases lt_or_eq_of_le hlow with h | h
      · linarith [hyle.2 (.inl (by linarith))]
      · linarith [hyle.2 (.inr ⟨by linarith, heven⟩)]
    · have hlog : 53 ≤ (r - 1).log2 := (Nat.le_log2 (by omega)).2 (by omega)
      have hbelow : 2 ≤ below r := by
        rw [below_of_le (by omega)]
        exact_mod_cast Nat.pow_le_pow_right (by decide : 0 < 2) (show 1 ≤ (r - 1).log2 - 52 by omega)
      have hyle := hy.le_iff r 0 hwhole (by decide)
      linarith [hyle.2 (.inl (by linarith))]
  have h := hz.le_of_le (i := 0) hwhole (by decide) (by linarith)
  linarith

/-- and the next fraction is reached by neither step -/
theorem le_of_lt_even (hhigh : x < r + 1 / 2) : z ≤ r := by
  have hone : (1 : ℚ) ≤ spacing r := by exact_mod_cast spacing_pos r
  obtain ⟨hyle, hygap⟩ := hy.next_le_iff hr hd
  obtain ⟨hzle, hzgap⟩ := hz.next_le_iff hr hd
  have hylt : y < r + spacing r := by
    by_contra hreached
    rcases hyle.1 (by linarith) with h | ⟨h, -⟩ <;> linarith
  have hy' := hygap hylt
  apply hzgap
  by_contra hreached
  rcases hzle.1 (by linarith) with h | ⟨h, hparity⟩
  · linarith
  · -- the step is a tie, and the tie goes to the even number
    have hle : (spacing r : ℚ) ≤ 1 := by linarith
    have hle : spacing r ≤ 1 := by exact_mod_cast hle
    have hpos := spacing_pos r
    rw [show spacing r = 1 by omega] at hparity
    omega

end

end

/-! ## sizes that are rounded half up -/

/-- how far below the middle above `r` bytes a size is rounded up already -/
def reach (r : Nat) : ℚ := if r = 0 then 3 / 2 ^ 55 else 2 ^ r.log2 / 2 ^ 53

/-- a size for which `r` bytes are right, and which is given them -/
def Rounds (size : ℚ) (r : Nat) : Prop :=
  if r < 2 ^ 52 then
    size + reach r < r + 1 / 2 ∨ size + reach r = r + 1 / 2 ∧ (r = 0 ∨ 2 ^ 51 ≤ r)
  else 2 ∣ r ∧ 2 ^ (r.log2 - 52) ∣ r

theorem reach_pos (r : Nat) : 0 < reach r := by
  unfold reach
  split <;> positivity

theorem reach_le {r : Nat} (hr : r ≠ 0) : reach r ≤ r / 2 ^ 53 := by
  have hself : 2 ^ r.log2 ≤ r := Nat.log2_self_le hr
  have hcast : (2 : ℚ) ^ r.log2 ≤ r := by exact_mod_cast hself
  rw [reach, if_neg hr]
  exact div_le_div_of_nonneg_right hcast (by positivity)

theorem reach_lt {r : Nat} (hr : r < 2 ^ 52) : reach r < 1 / 2 := by
  rcases Nat.eq_zero_or_pos r with rfl | hpos
  · rw [reach, if_pos rfl]
    norm_num
  · have hcast : (r : ℚ) < 2 ^ 52 := by exact_mod_cast hr
    have hle := reach_le (Nat.pos_iff_ne_zero.1 hpos)
    linarith

section
variable {x y z : ℚ} (hy : IsNearest 54 x y) (hz : IsNearest 54 (y + 1 / 2) z)
include hy hz

theorem succ_le_iff_reach {r : Nat} (hr : r < 2 ^ 52) : (r : ℚ) + 1 ≤ z ↔
    (r : ℚ) + 1 / 2 < x + reach r ∨ (r : ℚ) + 1 / 2 = x + reach r ∧ r ≠ 0 ∧ r < 2 ^ 51 := by
  rcases Nat.eq_zero_or_pos r with rfl | hpos
  · have hone := one_le_iff hy hz
    rw [Nat.cast_zero, zero_add, zero_add, hone, reach, if_pos rfl, sub_lt_iff_lt_add]
    simp
  · rw [succ_le_iff hy hz hpos hr, reach, if_neg (by omega), Nat.log2_lt (by omega), sub_lt_iff_lt_add,
      sub_eq_iff_eq_add]
    simp [Nat.pos_iff_ne_zero.1 hpos]

/-- two steps round half up exactly the sizes that are rounded -/
theorem floor_eq_iff (hx : 0 ≤ x) (hz0 : 0 ≤ z) :
    ⌊z⌋₊ = ⌊x + 1 / 2⌋₊ ↔ Rounds x ⌊x + 1 / 2⌋₊ := by
  have hle := Nat.floor_le (show 0 ≤ x + 1 / 2 by linarith)
  have hlt := Nat.lt_floor_add_one (x + 1 / 2)
  generalize ⌊x + 1 / 2⌋₊ = r at *
  rw [Nat.floor_eq_iff hz0, Rounds]
  by_cases hr : r < 2 ^ 52
  · have hreached : (r : ℚ) ≤ z := by
      cases r with
      | zero => simpa using hz0
      | succ j =>
        have hpos := reach_pos j
        push_cast at hle ⊢
        exact (succ_le_iff_reach hy hz (by omega)).2 (.inl (by linarith))
    rw [if_pos hr, and_iff_right hreached, ← not_le, succ_le_iff_reach hy hz hr]
    constructor
    · intro h
      rw [not_or] at h
      rcases lt_or_eq_of_le (not_lt.1 h.1) with hlow | heq
      · exact .inl hlow
      · right
        have hnot : ¬(r ≠ 0 ∧ r < 2 ^ 51) := fun hsmall => h.2 ⟨heq.symm, hsmall⟩
        exact ⟨heq, by omega⟩
    · intro h hpass
      rcases h with hlow | ⟨heq, hodd⟩
      · rcases hpass with hpass | ⟨hpass, -⟩ <;> linarith
      · rcases hpass with hpass | ⟨-, hsmall⟩
        · linarith
        · omega
  · rw [if_neg hr]
    constructor
    · intro h
      exact even_of_floor hy hz (by omega) h.1 h.2
    · intro h
      have hlow := le_of_even hy hz (by omega) h.1 h.2 (by linarith)
      have hhigh := le_of_lt_even hy hz (by omega) h.1 h.2 (by linarith)
      exact ⟨hlow, by linarith⟩

end

/-! ## the two steps of a size -/

/-- a decimal number and a unit of some bytes behind each other -/
def IsSize (value : Text) (d : DecimalText) (bytes : Nat) : Prop :=
  ∃ number ending, value = number ++ ending ∧ ending.length = 2 ∧
    unitBytes? (Text.lower ending) = some bytes ∧ readDecimal? number = some d

theorem exists_isSize {value : Text} {n : Nat} (h : parseSize value = .ok n) :
    ∃ d bytes, IsSize value d bytes ∧
      n = wholeBytes (nearest d.digits (Nat.pow 10 d.places) * bytes) := by
  unfold parseSize at h
  by_cases hlen : value.length < 3
  · rw [if_pos hlen] at h
    cases h
  · rw [if_neg hlen] at h
    dsimp only at h
    split at h
    · cases h
    · rename_i bytes hunit
      split at h
      · cases h
      · rename_i d hread
        split at h
        · cases h
        · refine ⟨d, bytes, ⟨_, _, (List.take_append_drop _ _).symm, ?_, hunit, hread⟩,
            (Except.ok.inj h).symm⟩
          rw [List.length_drop]
          omega

theorem unitBytes?_eq_some {u : Text} {bytes : Nat} (h : unitBytes? u = some bytes) :
    ∃ b, bytes = 2 ^ b ∧ 10 ≤ b ∧ b ≤ 20 := by
  unfold unitBytes? at h
  split at h
  · cases h
    exact ⟨10, rfl, by decide, by decide⟩
  · split at h
    · cases h
      exact ⟨20, rfl, by decide, by decide⟩
    · cases h

/-- the first step: the number is read, and multiplied with a power of two -/
theorem isNearest_steps (d : DecimalText) {b : Nat} (hb : b ≤ 20) :
    IsNearest 54 (d.value * 2 ^ b)
      ((nearest d.digits (Nat.pow 10 d.places) * 2 ^ b : Nat) / unit) := by
  have hden : 0 < Nat.pow 10 d.places := Nat.pow_pos (by decide)
  have hnumber := (isNearest_nearest d.digits hden).mono (show 54 + b ≤ 1022 by omega)
  have hvalue : (d.digits / (Nat.pow 10 d.places : Nat) : ℚ) = d.value := by
    rw [DecimalText.value, Nat.pow_eq]
    push_cast
    rfl
  have hsteps : ((nearest d.digits (Nat.pow 10 d.places) * 2 ^ b : Nat) / unit : ℚ) =
      nearest d.digits (Nat.pow 10 d.places) / unit * 2 ^ b := by
    push_cast
    ring
  rw [hvalue] at hnumber
  rw [hsteps]
  exact hnumber.scale

/-- the second step: one half is added -/
theorem isNearest_half (steps : Nat) :
    IsNearest 54 ((steps : ℚ) / unit + 1 / 2) (nearest (2 * steps + unit) (2 * unit) / unit) := by
  have hunit : (0 : ℚ) < unit := by exact_mod_cast unit_pos
  have hsum := (isNearest_nearest (2 * steps + unit) (Nat.mul_pos Nat.two_pos unit_pos)).mono
    (show 54 ≤ 1022 by decide)
  have hhalf : ((2 * steps + unit : Nat) / (2 * unit : Nat) : ℚ) = steps / unit + 1 / 2 := by
    push_cast
    field_simp
  rwa [hhalf] at hsum

theorem wholeBytes_eq_floor (steps : Nat) :
    wholeBytes steps = ⌊(nearest (2 * steps + unit) (2 * unit) / unit : ℚ)⌋₊ :=
  (Nat.floor_div_eq_div _ _).symm

/-! ## few digits -/

/-- a quotient of a number below `2 ^ 53` by a power of ten lies far enough from the middles -/
theorem rounds_quotient {n p r : Nat} (hn : n < 2 ^ 53) (hle : (r : ℚ) ≤ n / 10 ^ (p + 1) + 1 / 2)
    (hlt : (n / 10 ^ (p + 1) : ℚ) + 1 / 2 < r + 1) : Rounds (n / 10 ^ (p + 1)) r := by
  have hcast : (n : ℚ) < 2 ^ 53 := by exact_mod_cast hn
  have hten : (10 : ℚ) ≤ 10 ^ (p + 1) := le_self_pow₀ (by norm_num) (Nat.succ_ne_zero p)
  have hpos : (0 : ℚ) < 10 ^ (p + 1) := by positivity
  -- twice the quotient is not the odd number, and its numerator and denominator are even
  have hfar : (n / 10 ^ (p + 1) : ℚ) + 1 / 10 ^ (p + 1) ≤ r + 1 / 2 := by
    have hbelow : (n / 10 ^ (p + 1) : ℚ) < r + 1 / 2 := by linarith
    rw [div_lt_iff₀ hpos, pow_succ] at hbelow
    have hnat : n + 1 ≤ (2 * r + 1) * (5 * 10 ^ p) := by
      have hcast : (n : ℚ) < (2 * r + 1) * (5 * 10 ^ p) := by linarith
      exact_mod_cast hcast
    have hcast : (n : ℚ) + 1 ≤ (2 * r + 1) * (5 * 10 ^ p) := by exact_mod_cast hnat
    rw [← add_div, div_le_iff₀ hpos, pow_succ]
    linarith
  have hsmall : r < 2 ^ 52 := by
    have hquotient : (n / 10 ^ (p + 1) : ℚ) ≤ n / 10 :=
      div_le_div_of_nonneg_left (Nat.cast_nonneg n) (by norm_num) hten
    have hcast : (r : ℚ) < 2 ^ 52 := by linarith
    exact_mod_cast hcast
  rw [Rounds, if_pos hsmall]
  left
  rcases Nat.eq_zero_or_pos r with rfl | hr
  · rw [reach, if_pos rfl]
    by_cases hp : p ≤ 15
    · have hpow : (10 : ℚ) ^ (p + 1) ≤ 10 ^ 16 := pow_le_pow_right₀ (by norm_num) (by omega)
      have hstep : (1 / 10 ^ 16 : ℚ) ≤ 1 / 10 ^ (p + 1) := one_div_le_one_div_of_le hpos hpow
      have htiny : (3 / 2 ^ 55 : ℚ) < 1 / 10 ^ 16 := by norm_num
      linarith
    · have hpow : (10 : ℚ) ^ 17 ≤ 10 ^ (p + 1) := pow_le_pow_right₀ (by norm_num) (by omega)
      have hquotient : (n / 10 ^ (p + 1) : ℚ) ≤ n / 10 ^ 17 :=
        div_le_div_of_nonneg_left (Nat.cast_nonneg n) (by norm_num) hpow
      push_cast
      linarith
  · by_cases hreached : (r : ℚ) ≤ n / 10 ^ (p + 1)
    · rw [le_div_iff₀ hpos] at hreached
      have hstep : (r / 2 ^ 53 : ℚ) < 1 / 10 ^ (p + 1) := by
        rw [div_lt_div_iff₀ (by positivity) hpos]
        linarith
      linarith [reach_le (Nat.pos_iff_ne_zero.1 hr)]
    · linarith [reach_lt hsmall]

/-- sizes of few digits are rounded -/
theorem rounds_of_lt {d : DecimalText} {bytes : Nat} (heven : 2 ∣ bytes)
    (h : d.digits * bytes < 2 ^ 53) :
    Rounds (d.value * bytes) ⌊d.value * bytes + 1 / 2⌋₊ := by
  have hvalue : d.value * bytes = (d.digits * bytes : Nat) / 10 ^ d.places := by
    rw [DecimalText.value]
    push_cast
    ring
  rw [hvalue]
  have heven : 2 ∣ d.digits * bytes := heven.mul_left _
  generalize d.digits * bytes = n at *
  generalize d.places = places
  have hsum : (0 : ℚ) ≤ n / 10 ^ places + 1 / 2 := by positivity
  have hle := Nat.floor_le hsum
  have hlt := Nat.lt_floor_add_one ((n / 10 ^ places : ℚ) + 1 / 2)
  cases places with
  | zero =>
    rw [pow_zero, div_one] at *
    have hwhole : ⌊(n : ℚ) + 1 / 2⌋₊ = n :=
      (Nat.floor_eq_iff hsum).2 ⟨by linarith, by linarith⟩
    rw [hwhole, Rounds]
    by_cases hsmall : n < 2 ^ 52
    · rw [if_pos hsmall]
      left
      linarith [reach_lt hsmall]
    · rw [if_neg hsmall]
      have hlog : n.log2 < 53 := (Nat.log2_lt (by omega)).2 h
      refine ⟨heven, ?_⟩
      rw [Nat.sub_eq_zero_of_le (by omega)]
      exact Nat.one_dvd n
  | succ p => exact rounds_quotient h hle hlt

/-- **Sizes.**  An accepted size is a decimal number with a unit.  It is given the nearest number of
bytes, half up, exactly if it does not come too near to the middle above them, and beyond `2 ^ 52` bytes if
they are an even number of no more than 53 bits; so are all sizes of few digits. -/
theorem parseSize_eq_floor_iff (value : Text) (n : Nat) (h : parseSize value = .ok n) :
    ∃ d bytes, IsSize value d bytes ∧
      (n = ⌊d.value * bytes + 1 / 2⌋₊ ↔
        Rounds (d.value * bytes) ⌊d.value * bytes + 1 / 2⌋₊) ∧
      (d.digits * bytes < 2 ^ 53 → n = ⌊d.value * bytes + 1 / 2⌋₊) := by
  obtain ⟨d, bytes, hsize, rfl⟩ := exists_isSize h
  obtain ⟨number, ending, -, -, hunit, -⟩ := id hsize
  obtain ⟨b, rfl, hb, hb'⟩ := unitBytes?_eq_some hunit
  have hsteps := isNearest_steps d hb'
  have hhalf := isNearest_half (nearest d.digits (Nat.pow 10 d.places) * 2 ^ b)
  have hsize0 : 0 ≤ d.value * 2 ^ b := by
    rw [DecimalText.value]
    positivity
  have hiff := floor_eq_iff hsteps hhalf hsize0 (div_nonneg (Nat.cast_nonneg _) (Nat.cast_nonneg _))
  rw [← wholeBytes_eq_floor] at hiff
  refine ⟨d, 2 ^ b, hsize, ?_, ?_⟩
  · push_cast
    exact hiff
  · intro hfew
    have hrounds := rounds_of_lt (dvd_pow_self 2 (by omega)) hfew
    push_cast at hrounds ⊢
    exact hiff.2 hrounds

theorem parseSize_eq_floor_iff_thousandth :
    parseSize "0.001kb" = .ok 1 ∧ ∃ d bytes, IsSize "0.001kb" d bytes ∧
      (1 = ⌊d.value * bytes + 1 / 2⌋₊ ↔
        Rounds (d.value * bytes) ⌊d.value * bytes + 1 / 2⌋₊) ∧
      (d.digits * bytes < 2 ^ 53 → 1 = ⌊d.value * bytes + 1 / 2⌋₊) := by
  have h : parseSize "0.001kb" = .ok 1 := by decide +kernel
  exact ⟨h, parseSize_eq_floor_iff _ 1 h⟩

/-- a whole number of bytes is given one more, and less than half a byte is given one -/
theorem parseSize_misses :
    (parseSize "4398046511104.0009765625kb" = .ok 4503599627370498 ∧
      IsSize "4398046511104.0009765625kb" ⟨43980465111040009765625, 10⟩ 1024 ∧
      ⌊DecimalText.value ⟨43980465111040009765625, 10⟩ * 1024 + 1 / 2⌋₊ = 4503599627370497) ∧
    parseSize "0.00048828124999999999kb" = .ok 1 ∧
      IsSize "0.00048828124999999999kb" ⟨48828124999999999, 20⟩ 1024 ∧
      ⌊DecimalText.value ⟨48828124999999999, 20⟩ * 1024 + 1 / 2⌋₊ = 0 := by
  refine ⟨⟨by decide +kernel, ?_, ?_⟩, by decide +kernel, ?_, ?_⟩
  · exact ⟨"4398046511104.0009765625", "kb", by decide, by decide, by decide, by decide⟩
  · rw [DecimalText.value, Nat.floor_eq_iff (by positivity)]
    norm_num
  · exact ⟨"0.00048828124999999999", "kb", by decide, by decide, by decide, by decide⟩
  · rw [DecimalText.value, Nat.floor_eq_zero]
    norm_num

end Filter
end Mailroom
