import Mathlib.Algebra.Order.Field.Rat
import Mathlib.Data.Nat.Log
import Mathlib.Tactic.FieldSimp
import Mathlib.Tactic.Linarith
import Mathlib.Tactic.Positivity
import Mathlib.Tactic.Ring
import Mailroom.Number.Binary

/-!
# The nearest binary fraction

A natural number of steps is a fraction if the spacing there divides it.  The nearest fraction to a
quotient is at least as large as some other one exactly if the quotient reaches the middle between that
one and the fraction below it.

* `lt_roundDiv_iff`     where a quotient is rounded up;
* `IsFraction`, `isFraction_nearest`   numbers of steps that are fractions;
* `add_spacing_le`      how far fractions lie apart;
* `le_nearest_iff`      the middles at which the nearest fraction changes;
* `nearest_mono`        greater quotients have greater nearest fractions;
* `nearest_mul_two_pow` except for the smallest ones, doubling comes before or after rounding;
* `IsNearest`           the same for rationals and the fractions `c / 2 ^ i` of some places;
* `isNearest_nearest`   `nearest` finds the nearest fraction;
* `IsNearest.next_le_iff`, `IsNearest.isFraction`   fractions from `2 ^ 52` on, which are whole.
-/

namespace Mailroom.Binary

/-! ## quotients -/

theorem lt_roundDiv_iff {k num den : Nat} (hden : 0 < den) :
    k < roundDiv num den ↔
      (2 * k + 1) * den < 2 * num ∨ (2 * k + 1) * den = 2 * num ∧ k % 2 = 1 := by
  have hr := Nat.mod_lt num hden
  have hnum := Nat.div_add_mod num den
  unfold roundDiv
  dsimp only
  generalize num / den = q at *
  generalize num % den = r at *
  rcases Nat.lt_trichotomy k q with h | h | h
  · -- the quotient is above the middle behind `k` already
    have hmul : (2 * k + 2) * den ≤ 2 * q * den := Nat.mul_le_mul_right den (by omega)
    have hsplit : (2 * k + 2) * den = (2 * k + 1) * den + den := by ring
    have hq : 2 * q * den = 2 * (den * q) := by ring
    constructor
    · intro _
      left
      omega
    · intro _
      split <;> omega
  · subst h
    have hk : (2 * k + 1) * den = 2 * (den * k) + den := by ring
    rw [hk]
    split <;> omega
  · have hmul : (2 * q + 3) * den ≤ (2 * k + 1) * den := Nat.mul_le_mul_right den (by omega)
    have hsplit : (2 * q + 3) * den = 2 * (den * q) + 3 * den := by ring
    constructor
    · intro hlt
      split at hlt <;> omega
    · intro _
      omega

theorem roundDiv_le {num den c : Nat} (hden : 0 < den) (h : num ≤ c * den) : roundDiv num den ≤ c := by
  have hodd : (2 * c + 1) * den = 2 * (c * den) + den := by ring
  rw [← Nat.not_lt, lt_roundDiv_iff hden]
  omega

theorem roundDiv_mul_right (num : Nat) {den c : Nat} (hden : 0 < den) (hc : 0 < c) :
    roundDiv (num * c) (den * c) = roundDiv num den := by
  refine eq_of_forall_lt_iff fun k => ?_
  rw [lt_roundDiv_iff (Nat.mul_pos hden hc), lt_roundDiv_iff hden, ← Nat.mul_assoc, ← Nat.mul_assoc,
    Nat.mul_lt_mul_right hc, Nat.mul_left_inj hc.ne']

theorem le_roundDiv {num den c : Nat} (hden : 0 < den) (h : c * den ≤ num) : c ≤ roundDiv num den := by
  cases c with
  | zero => exact Nat.zero_le _
  | succ k =>
    have hsucc : (k + 1) * den = k * den + den := by ring
    have hodd : (2 * k + 1) * den = 2 * (k * den) + den := by ring
    apply (lt_roundDiv_iff hden).2
    left
    omega

/-! ## spacing -/

theorem spacing_pos (n : Nat) : 0 < spacing n := Nat.two_pow_pos _

theorem log2_le_log2 {m n : Nat} (h : m ≤ n) : m.log2 ≤ n.log2 := by
  rw [Nat.log2_eq_log_two, Nat.log2_eq_log_two]
  exact Nat.log_mono_right h

theorem spacing_dvd_spacing {m n : Nat} (h : m ≤ n) : spacing m ∣ spacing n :=
  Nat.pow_dvd_pow 2 (Nat.sub_le_sub_right (log2_le_log2 h) 52)

theorem spacing_dvd_two_pow (n : Nat) {k : Nat} (h : n.log2 ≤ k) : spacing n ∣ 2 ^ k :=
  Nat.pow_dvd_pow 2 ((Nat.sub_le _ _).trans h)

/-- numbers with different logarithms lie on different sides of a power of two -/
theorem lt_two_pow_log2 {m n : Nat} (h : m.log2 < n.log2) : m < 2 ^ n.log2 ∧ 2 ^ n.log2 ≤ n := by
  have hn : n ≠ 0 := by
    rintro rfl
    exact absurd h (Nat.not_lt_zero _)
  exact ⟨Nat.lt_log2_self.trans_le (Nat.pow_le_pow_right (by decide) h), Nat.log2_self_le hn⟩

/-- multiples of a number lie apart by that number -/
theorem add_le_of_dvd {g a b : Nat} (ha : g ∣ a) (hb : g ∣ b) (h : a < b) : a + g ≤ b := by
  have hle := Nat.le_of_dvd (Nat.sub_pos_of_lt h) (Nat.dvd_sub hb ha)
  omega

theorem log2_mul_two_pow_div {n den : Nat} (hden : 0 < den) (h : n / den ≠ 0) (k : Nat) :
    (n * 2 ^ k / den).log2 = (n / den).log2 + k := by
  have hlow : 2 ^ ((n / den).log2 + k) ≤ n * 2 ^ k / den := by
    have hself : 2 ^ (n / den).log2 * den ≤ n := (Nat.le_div_iff_mul_le hden).1 (Nat.log2_self_le h)
    rw [Nat.le_div_iff_mul_le hden, Nat.pow_add, Nat.mul_right_comm]
    exact Nat.mul_le_mul_right _ hself
  have hhigh : n * 2 ^ k / den < 2 ^ ((n / den).log2 + k + 1) := by
    have hself : n < 2 ^ ((n / den).log2 + 1) * den := (Nat.div_lt_iff_lt_mul hden).1 Nat.lt_log2_self
    rw [Nat.div_lt_iff_lt_mul hden, Nat.add_right_comm, Nat.pow_add, Nat.mul_right_comm]
    exact Nat.mul_lt_mul_of_pos_right hself (Nat.two_pow_pos k)
  have hpos : 0 < 2 ^ ((n / den).log2 + k) := Nat.two_pow_pos _
  exact (Nat.log2_eq_iff (by omega)).2 ⟨hlow, hhigh⟩

/-! ## fractions -/

/-- a number of steps that is a fraction -/
def IsFraction (n : Nat) : Prop := spacing n ∣ n

theorem isFraction_two_pow (k : Nat) : IsFraction (2 ^ k) :=
  spacing_dvd_two_pow _ (by rw [Nat.log2_two_pow])

/-- up to a power of two, multiples of the spacing below it are fractions -/
theorem isFraction_of_le {n l : Nat} (h : n ≤ 2 ^ (l + 1)) (hd : 2 ^ (l - 52) ∣ n) : IsFraction n := by
  rcases Nat.eq_or_lt_of_le h with rfl | h
  · exact isFraction_two_pow (l + 1)
  rcases Nat.eq_zero_or_pos n with rfl | hn
  · exact Nat.dvd_zero _
  · have hlog : n.log2 < l + 1 := (Nat.log2_lt (by omega)).2 h
    exact (Nat.pow_dvd_pow 2 (by omega)).trans hd

theorem add_spacing_le {f m : Nat} (hf : IsFraction f) (hd : spacing (m - 1) ∣ m) (h : f < m) :
    f + spacing (m - 1) ≤ m := by
  rcases Nat.eq_zero_or_pos (m - 1) with hzero | hpos
  · rw [hzero]
    exact h
  have hself : 2 ^ (m - 1).log2 ≤ m - 1 := Nat.log2_self_le (by omega)
  by_cases hlow : 2 ^ (m - 1).log2 ≤ f
  · -- both lie between the same powers of two
    have hf0 : f ≠ 0 := by
      have := Nat.two_pow_pos (m - 1).log2
      omega
    have hlog : f.log2 = (m - 1).log2 :=
      Nat.le_antisymm (log2_le_log2 (by omega)) ((Nat.le_log2 hf0).2 hlow)
    have hsame : spacing f = spacing (m - 1) := by rw [spacing, spacing, hlog]
    exact add_le_of_dvd (hsame ▸ hf) hd h
  · have hstep := add_le_of_dvd (spacing_dvd_two_pow (m - 1) le_rfl) hd (by omega)
    omega

section
variable {num den m : Nat} (hden : 0 < den)
include hden

theorem lt_div_add_one_mul : num * unit < (num * unit / den + 1) * den := by
  rw [Nat.mul_comm _ den]
  exact Nat.lt_mul_div_succ _ hden

/-- a multiple of the spacing at the quotient is not passed before the quotient passes it -/
theorem nearest_le {g : Nat} (hd : spacing (num * unit / den) ∣ g) (h : num * unit ≤ g * den) :
    nearest num den ≤ g := by
  obtain ⟨c, rfl⟩ := hd
  have hpos := Nat.mul_pos hden (spacing_pos (num * unit / den))
  rw [Nat.mul_comm _ c, Nat.mul_assoc, Nat.mul_comm _ den] at h
  rw [Nat.mul_comm _ c]
  exact Nat.mul_le_mul_right _ (roundDiv_le hpos h)

theorem le_nearest {g : Nat} (hd : spacing (num * unit / den) ∣ g) (h : g * den ≤ num * unit) :
    g ≤ nearest num den := by
  obtain ⟨c, rfl⟩ := hd
  have hpos := Nat.mul_pos hden (spacing_pos (num * unit / den))
  rw [Nat.mul_comm _ c, Nat.mul_assoc, Nat.mul_comm _ den] at h
  rw [Nat.mul_comm _ c]
  exact Nat.mul_le_mul_right _ (le_roundDiv hpos h)

/-- nor is a power of two passed -/
theorem nearest_le_two_pow {k : Nat} (h : num * unit / den < 2 ^ k) (hk : (num * unit / den).log2 ≤ k) :
    nearest num den ≤ 2 ^ k := by
  apply nearest_le hden (spacing_dvd_two_pow _ hk)
  exact (lt_div_add_one_mul hden).le.trans (Nat.mul_le_mul_right den h)

theorem isFraction_nearest (num : Nat) : IsFraction (nearest num den) :=
  isFraction_of_le (nearest_le_two_pow hden Nat.lt_log2_self (Nat.le_succ _)) (Nat.dvd_mul_left _ _)

/-- below a power of two that does not reach `m`, the quotient and the nearest fraction are both too small -/
theorem nearest_lt_of_log2_lt (hd : spacing (m - 1) ∣ m) (hlog : (num * unit / den).log2 < (m - 1).log2) :
    nearest num den < m ∧ 2 * (num * unit) + spacing (m - 1) * den < 2 * m * den := by
  have hgap := Nat.mul_pos (spacing_pos (m - 1)) hden
  obtain ⟨hlow, hself⟩ := lt_two_pow_log2 hlog
  have hpower := Nat.two_pow_pos (m - 1).log2
  have hround := nearest_le_two_pow hden hlow hlog.le
  have hn : (num * unit / den + 1) * den ≤ 2 ^ (m - 1).log2 * den := Nat.mul_le_mul_right den hlow
  have hlt : num * unit < (num * unit / den + 1) * den := lt_div_add_one_mul hden
  have hstep := add_le_of_dvd (spacing_dvd_two_pow (m - 1) le_rfl) hd (by omega)
  have hfar : (2 ^ (m - 1).log2 + spacing (m - 1)) * den ≤ m * den := Nat.mul_le_mul_right den hstep
  rw [Nat.add_mul] at hfar
  rw [Nat.mul_assoc]
  omega

/-- from a power of two on that reaches `m`, both are large enough -/
theorem le_nearest_of_log2_lt (hlog : (m - 1).log2 < (num * unit / den).log2) :
    m ≤ nearest num den ∧ 2 * m * den < 2 * (num * unit) + spacing (m - 1) * den := by
  have hgap := Nat.mul_pos (spacing_pos (m - 1)) hden
  obtain ⟨hm, hself⟩ := lt_two_pow_log2 hlog
  have hn : 2 ^ (num * unit / den).log2 * den ≤ num * unit :=
    (Nat.mul_le_mul_right den hself).trans (Nat.div_mul_le_self _ _)
  have hround := le_nearest hden (spacing_dvd_two_pow _ le_rfl) hn
  have hnear : m * den ≤ 2 ^ (num * unit / den).log2 * den := Nat.mul_le_mul_right den (by omega)
  rw [Nat.mul_assoc]
  omega

/-- between the same powers of two, `m` is a multiple of the spacing at the quotient -/
theorem le_nearest_iff_of_log2_eq (hm : 0 < m) (hd : spacing (m - 1) ∣ m)
    (hlog : (num * unit / den).log2 = (m - 1).log2) :
    m ≤ nearest num den ↔
      2 * m * den < 2 * (num * unit) + spacing (m - 1) * den ∨
        2 * m * den = 2 * (num * unit) + spacing (m - 1) * den ∧ 2 * spacing (m - 1) ∣ m := by
  have hsame : spacing (num * unit / den) = spacing (m - 1) := by rw [spacing, spacing, hlog]
  rw [nearest, hsame]
  generalize spacing (m - 1) = g at *
  obtain ⟨c, rfl⟩ := hd
  obtain ⟨k, rfl⟩ : ∃ k, c = k + 1 := Nat.exists_eq_succ_of_ne_zero (by rintro rfl; simp at hm)
  have hg : 0 < g := Nat.pos_of_mul_pos_right hm
  have hmiddle : 2 * (g * (k + 1)) * den = (2 * k + 1) * (den * g) + g * den := by ring
  have heven : 2 * g ∣ g * (k + 1) ↔ k % 2 = 1 := by
    rw [Nat.mul_comm 2 g, Nat.mul_dvd_mul_iff_left hg]
    omega
  rw [Nat.mul_comm _ g, Nat.mul_le_mul_left_iff hg, Nat.succ_le_iff,
    lt_roundDiv_iff (Nat.mul_pos hden hg), hmiddle, heven]
  omega

/-- the nearest fraction is at least `m` exactly if the quotient lies above the middle between `m` and
the fraction below it, or in the middle with `m` even -/
theorem le_nearest_iff (hm : 0 < m) (hd : spacing (m - 1) ∣ m) :
    m ≤ nearest num den ↔
      2 * m * den < 2 * (num * unit) + spacing (m - 1) * den ∨
        2 * m * den = 2 * (num * unit) + spacing (m - 1) * den ∧ 2 * spacing (m - 1) ∣ m := by
  rcases Nat.lt_trichotomy (num * unit / den).log2 (m - 1).log2 with hlog | hlog | hlog
  · obtain ⟨hround, hbelow⟩ := nearest_lt_of_log2_lt hden hd hlog
    omega
  · exact le_nearest_iff_of_log2_eq hden hm hd hlog
  · obtain ⟨hround, habove⟩ := le_nearest_of_log2_lt hden hlog
    exact iff_of_true hround (.inl habove)

/-- quotients that are large enough are rounded before they are doubled as well as after it -/
theorem nearest_mul_two_pow (hlarge : 2 ^ 52 ≤ num * unit / den) (k : Nat) :
    nearest (num * 2 ^ k) den = nearest num den * 2 ^ k := by
  have hswap : num * 2 ^ k * unit = num * unit * 2 ^ k := Nat.mul_right_comm _ _ _
  have hbits : 52 ≤ (num * unit / den).log2 := (Nat.le_log2 (by omega)).2 hlarge
  have hgap : spacing (num * unit * 2 ^ k / den) = spacing (num * unit / den) * 2 ^ k := by
    rw [spacing, spacing, log2_mul_two_pow_div hden (by omega), Nat.sub_add_comm hbits]
    exact Nat.pow_add 2 _ k
  have hpos := Nat.mul_pos hden (spacing_pos (num * unit / den))
  rw [nearest, nearest, hswap, hgap, ← Nat.mul_assoc den, roundDiv_mul_right _ hpos (Nat.two_pow_pos k),
    Nat.mul_assoc]

end

/-- the nearest fraction to a quotient is at most the one to a greater quotient -/
theorem nearest_mono {num den num' den' : Nat} (hden : 0 < den) (hden' : 0 < den')
    (h : num * den' ≤ num' * den) : nearest num den ≤ nearest num' den' := by
  obtain ⟨m, hm⟩ : ∃ m, nearest num den = m := ⟨_, rfl⟩
  have hfraction : IsFraction m := hm ▸ isFraction_nearest hden num
  have hself : m ≤ nearest num den := hm.ge
  rw [hm]
  rcases Nat.eq_zero_or_pos m with rfl | hpos
  · exact Nat.zero_le _
  have hd : spacing (m - 1) ∣ m := (spacing_dvd_spacing (Nat.sub_le m 1)).trans hfraction
  rw [le_nearest_iff hden hpos hd] at hself
  rw [le_nearest_iff hden' hpos hd]
  generalize spacing (m - 1) = s at *
  have hcross : num * unit * den' ≤ num' * unit * den := by
    rw [Nat.mul_right_comm, Nat.mul_right_comm num']
    exact Nat.mul_le_mul_right unit h
  have hleft : den * (2 * m * den') = 2 * m * den * den' := by ring
  have hright : (2 * (num * unit) + s * den) * den' ≤ den * (2 * (num' * unit) + s * den') := by
    have hsplit : (2 * (num * unit) + s * den) * den' = 2 * (num * unit * den') + s * den * den' := by ring
    have hsplit' : den * (2 * (num' * unit) + s * den') = 2 * (num' * unit * den) + s * den * den' := by ring
    omega
  rcases hself with hlt | ⟨heq, heven⟩
  · left
    refine Nat.lt_of_mul_lt_mul_left (a := den) ?_
    rw [hleft]
    exact (Nat.mul_lt_mul_of_pos_right hlt hden').trans_le hright
  · have hle : 2 * m * den' ≤ 2 * (num' * unit) + s * den' := by
      refine Nat.le_of_mul_le_mul_left ?_ hden
      rw [hleft, heq]
      exact hright
    exact (Nat.lt_or_eq_of_le hle).imp_right fun heq => ⟨heq, heven⟩

/-! ## rationals -/

/-- a whole number, from two on, that is a fraction -/
structure IsWhole (c : Nat) : Prop where
  two_le : 2 ≤ c
  dvd : 2 ^ (c - 1).log2 ∣ c * 2 ^ 52

/-- how far below `c` the next fraction lies -/
def below (c : Nat) : ℚ := 2 ^ (c - 1).log2 / 2 ^ 52

theorem below_pos (c : Nat) : 0 < below c := by
  unfold below
  positivity

theorem isWhole_of_dvd {c : Nat} (h : 2 ≤ c) (hd : 2 ^ ((c - 1).log2 - 52) ∣ c) : IsWhole c := by
  refine ⟨h, ?_⟩
  have hsplit : 2 ^ (c - 1).log2 ∣ 2 ^ ((c - 1).log2 - 52) * 2 ^ 52 := by
    rw [← Nat.pow_add]
    exact Nat.pow_dvd_pow 2 (by omega)
  exact hsplit.trans (Nat.mul_dvd_mul_right hd _)

theorem isWhole_of_le {c : Nat} (h : 2 ≤ c) (h' : c ≤ 2 ^ 53) : IsWhole c := by
  apply isWhole_of_dvd h
  have hlog : (c - 1).log2 < 53 := (Nat.log2_lt (by omega)).2 (by omega)
  rw [Nat.sub_eq_zero_of_le (by omega)]
  exact Nat.one_dvd c

theorem IsFraction.isWhole {c : Nat} (hc : IsFraction c) (h : 2 ≤ c) : IsWhole c :=
  isWhole_of_dvd h ((spacing_dvd_spacing (Nat.sub_le c 1)).trans hc)

theorem below_of_le {c : Nat} (h : 52 ≤ (c - 1).log2) :
    below c = (2 ^ ((c - 1).log2 - 52) : Nat) := by
  rw [below, div_eq_iff (by positivity)]
  push_cast
  rw [← pow_add, Nat.sub_add_cancel h]

/-- `y` is a fraction nearest to `x`, as far as it can be told from the fractions of some places: they
are at most `y` where `x` reaches the middle below them, and no other one lies between two of them -/
structure IsNearest (places : Nat) (x y : ℚ) : Prop where
  le_iff : ∀ c i, IsWhole c → i ≤ places → ((c : ℚ) ≤ y * 2 ^ i ↔
    c - below c / 2 < x * 2 ^ i ∨
      c - below c / 2 = x * 2 ^ i ∧ 2 ^ ((c - 1).log2 + 1) ∣ c * 2 ^ 52)
  add_le : ∀ c i, IsWhole c → i ≤ places → y * 2 ^ i < c → y * 2 ^ i + below c ≤ c

theorem log2_mul_two_pow_sub_one {c : Nat} (hc : 2 ≤ c) (a : Nat) :
    (c * 2 ^ a - 1).log2 = (c - 1).log2 + a := by
  have hself : 2 ^ (c - 1).log2 ≤ c - 1 := Nat.log2_self_le (by omega)
  have hnext : c - 1 < 2 ^ ((c - 1).log2 + 1) := Nat.lt_log2_self
  have ha : 0 < 2 ^ a := Nat.two_pow_pos a
  have hlow : 2 ^ (c - 1).log2 * 2 ^ a ≤ (c - 1) * 2 ^ a := Nat.mul_le_mul_right _ hself
  have hhigh : c * 2 ^ a ≤ 2 ^ ((c - 1).log2 + 1) * 2 ^ a := Nat.mul_le_mul_right _ (by omega)
  have hsplit : (c - 1) * 2 ^ a + 2 ^ a = c * 2 ^ a := by
    rw [← Nat.succ_mul, Nat.succ_eq_add_one, Nat.sub_add_cancel (by omega)]
  have hpos : 0 < (c - 1) * 2 ^ a := Nat.mul_pos (by omega) ha
  rw [Nat.log2_eq_iff (by omega), Nat.add_right_comm, Nat.pow_add, Nat.pow_add]
  omega

theorem unit_eq {p i : Nat} (h : 1074 = p + 52 + i) : unit = 2 ^ (p + 52) * 2 ^ i := by
  delta unit
  rw [h, Nat.pow_eq, Nat.pow_add]

theorem unit_pos : 0 < unit := by
  obtain ⟨p, h⟩ : ∃ p, 1074 = p + 52 + 0 := ⟨1022, rfl⟩
  rw [unit_eq h]
  exact Nat.mul_pos (Nat.two_pow_pos _) (Nat.two_pow_pos _)

theorem spacing_mul_two_pow_sub_one {c : Nat} (hc : 2 ≤ c) (p : Nat) :
    spacing (c * 2 ^ (p + 52) - 1) = 2 ^ p * 2 ^ (c - 1).log2 := by
  rw [spacing, Nat.pow_eq, log2_mul_two_pow_sub_one hc, ← Nat.add_assoc, Nat.add_sub_cancel,
    Nat.pow_add, Nat.mul_comm]

/-- the middle below a fraction, and a quotient, in steps -/
theorem middle_eq {c den : Nat} (hden : 0 < den) (p : Nat) : (c : ℚ) - below c / 2 =
    (((2 * (c * 2 ^ (p + 52)) * den : Nat) : ℚ) - (2 ^ p * 2 ^ (c - 1).log2 * den : Nat)) /
      (2 * 2 ^ (p + 52) * den : Nat) := by
  have hq : (den : ℚ) ≠ 0 := by positivity
  push_cast
  rw [below, pow_add]
  field_simp

theorem quotient_eq {num den p i : Nat} (hden : 0 < den) (h : 1074 = p + 52 + i) :
    (num / den * 2 ^ i : ℚ) = (2 * (num * unit) : Nat) / (2 * 2 ^ (p + 52) * den : Nat) := by
  have hq : (den : ℚ) ≠ 0 := by positivity
  rw [unit_eq h]
  push_cast
  field_simp

theorem steps_eq {n p i : Nat} (h : 1074 = p + 52 + i) :
    (n / unit * 2 ^ i : ℚ) = n / 2 ^ (p + 52) := by
  rw [unit_eq h]
  push_cast
  field_simp

theorem spacing_dvd {c : Nat} (hc : IsWhole c) (p : Nat) :
    spacing (c * 2 ^ (p + 52) - 1) ∣ c * 2 ^ (p + 52) := by
  rw [spacing_mul_two_pow_sub_one hc.two_le, Nat.pow_add, Nat.mul_left_comm]
  exact Nat.mul_dvd_mul_left _ hc.dvd

theorem two_mul_spacing_dvd_iff {c : Nat} (hc : IsWhole c) (p : Nat) :
    2 * spacing (c * 2 ^ (p + 52) - 1) ∣ c * 2 ^ (p + 52) ↔
      2 ^ ((c - 1).log2 + 1) ∣ c * 2 ^ 52 := by
  rw [spacing_mul_two_pow_sub_one hc.two_le, Nat.pow_add 2 p, Nat.mul_left_comm c, Nat.mul_left_comm 2,
    Nat.pow_succ, Nat.mul_comm 2]
  exact Nat.mul_dvd_mul_iff_left (Nat.two_pow_pos p)

/-- `nearest` finds the nearest fraction -/
theorem isNearest_nearest (num : Nat) {den : Nat} (hden : 0 < den) :
    IsNearest 1022 (num / den) (nearest num den / unit) := by
  -- of `2 ^ -i` there are `2 ^ (p + 52)` steps
  have hplaces : ∀ i ≤ 1022, ∃ p, 1074 = p + 52 + i := fun i hi => ⟨1022 - i, by omega⟩
  constructor
  · intro c i hc hi
    obtain ⟨p, hpi⟩ := hplaces i hi
    have hm : 0 < c * 2 ^ (p + 52) := Nat.mul_pos (by have := hc.two_le; omega) (Nat.two_pow_pos _)
    have hleft : (c : ℚ) ≤ nearest num den / unit * 2 ^ i ↔ c * 2 ^ (p + 52) ≤ nearest num den := by
      rw [steps_eq hpi, le_div_iff₀ (by positivity)]
      exact_mod_cast Iff.rfl
    have hpos : (0 : ℚ) < (2 * 2 ^ (p + 52) * den : Nat) := by positivity
    rw [hleft, le_nearest_iff hden hm (spacing_dvd hc p), two_mul_spacing_dvd_iff hc,
      spacing_mul_two_pow_sub_one hc.two_le, middle_eq hden p, quotient_eq hden hpi,
      div_lt_div_iff_of_pos_right hpos, div_left_inj' hpos.ne', sub_lt_iff_lt_add, sub_eq_iff_eq_add,
      ← Nat.cast_add, Nat.cast_lt, Nat.cast_inj]
  · intro c i hc hi h
    obtain ⟨p, hpi⟩ := hplaces i hi
    rw [steps_eq hpi] at h ⊢
    have hlt : nearest num den < c * 2 ^ (p + 52) := by
      rw [div_lt_iff₀ (by positivity)] at h
      exact_mod_cast h
    have hstep := add_spacing_le (isFraction_nearest hden num) (spacing_dvd hc p) hlt
    rw [spacing_mul_two_pow_sub_one hc.two_le, Nat.pow_add] at hstep
    have hcast : (nearest num den : ℚ) + 2 ^ p * 2 ^ (c - 1).log2 ≤ c * (2 ^ p * 2 ^ 52) := by
      exact_mod_cast hstep
    have hp : (2 : ℚ) ^ p ≠ 0 := by positivity
    have hbelow : below c = 2 ^ p * 2 ^ (c - 1).log2 / (2 ^ p * 2 ^ 52) := by
      rw [below, mul_div_mul_left _ _ hp]
    rw [hbelow, pow_add, ← add_div, div_le_iff₀ (by positivity)]
    exact hcast

theorem IsNearest.mono {places places' : Nat} {x y : ℚ} (h : IsNearest places x y)
    (hle : places' ≤ places) : IsNearest places' x y :=
  ⟨fun c i hc hi => h.le_iff c i hc (hi.trans hle), fun c i hc hi => h.add_le c i hc (hi.trans hle)⟩

/-- scaling by a power of two moves the places -/
theorem IsNearest.scale {places b : Nat} {x y : ℚ} (h : IsNearest (places + b) x y) :
    IsNearest places (x * 2 ^ b) (y * 2 ^ b) := by
  constructor
  · intro c i hc hi
    rw [mul_assoc, mul_assoc, ← pow_add]
    exact h.le_iff c (b + i) hc (by omega)
  · intro c i hc hi hlt
    rw [mul_assoc, ← pow_add] at hlt ⊢
    exact h.add_le c (b + i) hc (by omega) hlt

/-- a fraction that the number reaches is reached by the nearest one -/
theorem IsNearest.le_of_le {places c i : Nat} {x y : ℚ} (h : IsNearest places x y) (hc : IsWhole c)
    (hi : i ≤ places) (hle : (c : ℚ) ≤ x * 2 ^ i) : (c : ℚ) ≤ y * 2 ^ i := by
  have hbelow := below_pos c
  rw [h.le_iff c i hc hi]
  left
  linarith

/-! ## fractions without a part behind the point -/

section
variable {r : Nat} (hr : 2 ^ 52 ≤ r) (hd : IsFraction r)
include hr hd

/-- from `2 ^ 52` on the fraction behind a whole number is whole, and lies apart by the spacing -/
theorem isWhole_next :
    IsWhole (r + spacing r) ∧ (r + spacing r - 1).log2 = r.log2 ∧ below (r + spacing r) = spacing r := by
  have hlog : 52 ≤ r.log2 := (Nat.le_log2 (by omega)).2 hr
  have hself : 2 ^ r.log2 ≤ r := Nat.log2_self_le (by omega)
  have hpos := spacing_pos r
  have hnext : r + spacing r ≤ 2 ^ (r.log2 + 1) :=
    add_le_of_dvd hd (spacing_dvd_two_pow r (Nat.le_succ _)) Nat.lt_log2_self
  have hlogc : (r + spacing r - 1).log2 = r.log2 :=
    (Nat.log2_eq_iff (by omega)).2 ⟨by omega, by omega⟩
  refine ⟨isWhole_of_dvd (by omega) ?_, hlogc, ?_⟩
  · rw [hlogc]
    exact Nat.dvd_add_self_right.2 hd
  · rw [below_of_le (by omega), hlogc]
    rfl

/-- when the fraction behind a whole number is nearest, and that none lies in between -/
theorem IsNearest.next_le_iff {places : Nat} {x y : ℚ} (h : IsNearest places x y) :
    ((r : ℚ) + spacing r ≤ y ↔ (r : ℚ) + spacing r / 2 < x ∨
        (r : ℚ) + spacing r / 2 = x ∧ 2 * spacing r ∣ r + spacing r) ∧
      (y < r + spacing r → y ≤ r) := by
  have hlog : 52 ≤ r.log2 := (Nat.le_log2 (by omega)).2 hr
  obtain ⟨hwhole, hlogc, hbelow⟩ := isWhole_next hr hd
  have hmiddle := h.le_iff _ 0 hwhole (Nat.zero_le _)
  have hgap := h.add_le _ 0 hwhole (Nat.zero_le _)
  have heven : 2 ^ (r.log2 + 1) ∣ (r + spacing r) * 2 ^ 52 ↔ 2 * spacing r ∣ r + spacing r := by
    have hpow : 2 ^ (r.log2 + 1) = 2 * spacing r * 2 ^ 52 := by
      rw [spacing, Nat.pow_eq, Nat.mul_assoc, ← Nat.pow_add, Nat.sub_add_cancel hlog, Nat.pow_succ']
    rw [hpow]
    exact Nat.mul_dvd_mul_iff_right (Nat.two_pow_pos 52)
  rw [hbelow, hlogc, heven, pow_zero, mul_one, mul_one] at hmiddle
  rw [hbelow, pow_zero, mul_one] at hgap
  push_cast at hmiddle hgap
  have hhalf : (r : ℚ) + spacing r - spacing r / 2 = r + spacing r / 2 := by ring
  rw [hhalf] at hmiddle
  refine ⟨hmiddle, fun hlt => ?_⟩
  linarith [hgap hlt]

end

section
variable {places n : Nat} {x y : ℚ} (h : IsNearest places x y)
include h

/-- from `2 ^ 52` to `2 ^ 53` the fractions are the whole numbers -/
theorem IsNearest.succ_le_iff (hn : 2 ^ 52 ≤ n) (hn' : n < 2 ^ 53) :
    ((n : ℚ) + 1 ≤ y ↔ (n : ℚ) + 1 / 2 < x ∨ (n : ℚ) + 1 / 2 = x ∧ 2 ∣ n + 1) ∧
      (y < n + 1 → y ≤ n) := by
  have hspacing : spacing n = 1 := by
    rw [spacing, (Nat.log2_eq_iff (by omega)).2 ⟨hn, hn'⟩]
  have hd : IsFraction n := by
    rw [IsFraction, hspacing]
    exact Nat.one_dvd n
  have hnext := IsNearest.next_le_iff hn hd h
  rw [hspacing] at hnext
  simpa using hnext

/-- a fraction has a whole part that is one -/
theorem IsNearest.isFraction (hn : 2 ^ 52 ≤ n) (hle : (n : ℚ) ≤ y) (hlt : y < n + 1) :
    IsFraction n := by
  have hself : 2 ^ n.log2 ≤ n := Nat.log2_self_le (by omega)
  have hnext : n < 2 ^ (n.log2 + 1) := Nat.lt_log2_self
  have hbehind : n < spacing n * (n / spacing n + 1) := Nat.lt_mul_div_succ n (spacing_pos n)
  have hlast : spacing n * (n / spacing n) ≤ n := Nat.mul_div_le n _
  have hd : spacing n ∣ spacing n * (n / spacing n) := Nat.dvd_mul_right _ _
  rw [Nat.mul_succ] at hbehind
  -- the last multiple of the spacing up to `n` is a fraction, and the one behind it is above `y`
  generalize spacing n * (n / spacing n) = r at *
  have hlow : 2 ^ n.log2 ≤ r := by
    by_contra hlow
    have hstep := add_le_of_dvd hd (spacing_dvd_two_pow n le_rfl) (not_le.1 hlow)
    omega
  have hlog : 52 ≤ n.log2 := (Nat.le_log2 (by omega)).2 hn
  have hlarge : 2 ^ 52 ≤ r := (Nat.pow_le_pow_right (by decide) hlog).trans hlow
  have hsame : spacing r = spacing n := by
    rw [spacing, spacing, (Nat.log2_eq_iff (by omega)).2 ⟨hlow, by omega⟩]
  have hr : IsFraction r := by
    rw [IsFraction, hsame]
    exact hd
  have hcast : (n : ℚ) + 1 ≤ r + spacing r := by
    rw [hsame]
    exact_mod_cast hbehind
  have hfits : (n : ℚ) ≤ r := hle.trans ((IsNearest.next_le_iff hlarge hr h).2 (by linarith))
  have hfits : n ≤ r := by exact_mod_cast hfits
  rwa [Nat.le_antisymm hfits hlast]

end

end Mailroom.Binary
