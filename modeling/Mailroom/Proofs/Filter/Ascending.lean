import Mailroom.Proofs.Filter.Rounding

/-!
# Sizes in order

A greater size is never given fewer bytes, whatever the units and the digits of the two.  Reading a
number, and adding one half, keep the order because rounding does; multiplying with a unit is exact but
for numbers far below one byte, which are given none.

* `parseSize_of_isSize`   what a number with a unit is given;
* `exists_isSize_iff`     the sizes that are accepted or too large are the numbers with units;
* `wholeBytes_mono`, `steps_le_or`   both steps keep the order;
* `parseSize_mono`        so does the whole.
-/

namespace Mailroom.Filter

open Binary

/-- a size in steps of a binary fraction, before one half is added -/
def steps (d : DecimalText) (bytes : Nat) : Nat := nearest d.digits (Nat.pow 10 d.places) * bytes

/-! ## numbers with units -/

theorem ne_nil_of_readDecimal? {number : Text} {d : DecimalText} (h : readDecimal? number = some d) :
    number ≠ [] := by
  rintro rfl
  cases h

section
variable {value : Text} {d : DecimalText} {bytes : Nat} (h : IsSize value d bytes)
include h

theorem parseSize_of_isSize : parseSize value =
    if ceiling ≤ steps d bytes then .error ⟨.sizeTooLarge, value⟩
    else .ok (wholeBytes (steps d bytes)) := by
  obtain ⟨number, ending, rfl, hlen, hunit, hread⟩ := h
  have hnumber := List.length_pos_of_ne_nil (ne_nil_of_readDecimal? hread)
  have hcut : (number ++ ending).length - 2 = number.length := by
    rw [List.length_append]
    omega
  have hlong : ¬(number ++ ending).length < 3 := by
    rw [List.length_append]
    omega
  unfold parseSize
  rw [if_neg hlong, hcut, List.take_left, List.drop_left]
  simp only [hunit, hread]
  rfl

end

theorem exists_isSize_iff {value : Text} : (∃ d bytes, IsSize value d bytes) ↔
    (∃ n, parseSize value = .ok n) ∨ parseSize value = .error ⟨.sizeTooLarge, value⟩ := by
  constructor
  · rintro ⟨d, bytes, h⟩
    rw [parseSize_of_isSize h]
    by_cases hlarge : ceiling ≤ steps d bytes
    · rw [if_pos hlarge]
      exact .inr rfl
    · rw [if_neg hlarge]
      exact .inl ⟨_, rfl⟩
  · rintro (⟨n, h⟩ | h)
    · obtain ⟨d, bytes, h, -⟩ := exists_isSize h
      exact ⟨d, bytes, h⟩
    · unfold parseSize at h
      by_cases hlen : value.length < 3
      · rw [if_pos hlen] at h
        cases h
      · rw [if_neg hlen] at h
        dsimp only at h
        split at h
        · cases h
        · rename_i bytes hunit
          split at h
          · cases h
          · rename_i d hread
            refine ⟨d, bytes, _, _, (List.take_append_drop _ _).symm, ?_, hunit, hread⟩
            rw [List.length_drop]
            omega

/-! ## the two steps -/

theorem wholeBytes_mono {m n : Nat} (h : m ≤ n) : wholeBytes m ≤ wholeBytes n := by
  have hden : 0 < 2 * unit := Nat.mul_pos Nat.two_pos unit_pos
  unfold wholeBytes
  refine Nat.div_le_div_right (nearest_mono hden hden (Nat.mul_le_mul_right _ ?_))
  exact Nat.add_le_add_right (Nat.mul_le_mul_left 2 h) _

/-- far less than one byte is given none -/
theorem wholeBytes_eq_zero {n : Nat} (h : n ≤ 2 ^ 72) : wholeBytes n = 0 := by
  have hsmall : wholeBytes (2 ^ 72) = 0 := by decide +kernel
  have hle := wholeBytes_mono h
  omega

theorem lt_ceiling {n : Nat} (h : n ≤ 2 ^ 72) : n < ceiling := by
  obtain ⟨k, hk, hlt⟩ : ∃ k, 2098 = k ∧ 72 < k := ⟨2098, rfl, by decide⟩
  delta ceiling
  rw [hk, Nat.pow_eq]
  exact h.trans_lt (Nat.pow_lt_pow_right (by decide) hlt)

section
variable {n den b : Nat} (hden : 0 < den) (hb : b ≤ 20)
include hden hb

/-- numbers far below one byte stay there -/
theorem steps_le_of_lt (h : n * 2 ^ b * unit < 2 ^ 72 * den) : nearest n den * 2 ^ b ≤ 2 ^ 72 := by
  have hsplit : 2 ^ (72 - b) * 2 ^ b = 2 ^ 72 := by
    rw [← Nat.pow_add, Nat.sub_add_cancel (by omega)]
  have hlow : n * unit / den < 2 ^ (72 - b) := by
    rw [Nat.div_lt_iff_lt_mul hden]
    refine Nat.lt_of_mul_lt_mul_right (a := 2 ^ b) ?_
    rwa [Nat.mul_right_comm _ den, hsplit, Nat.mul_right_comm n]
  have hlog : (n * unit / den).log2 ≤ 72 - b := by
    rcases Nat.eq_zero_or_pos (n * unit / den) with hzero | hpos
    · rw [hzero]
      exact Nat.zero_le _
    · exact ((Nat.log2_lt hpos.ne').2 hlow).le
  rw [← hsplit]
  exact Nat.mul_le_mul_right _ (nearest_le_two_pow hden hlow hlog)

/-- all others may as well be multiplied first -/
theorem steps_of_le (h : 2 ^ 72 * den ≤ n * 2 ^ b * unit) :
    nearest n den * 2 ^ b = nearest (n * 2 ^ b) den := by
  have hlarge : 2 ^ 52 ≤ n * unit / den := by
    rw [Nat.le_div_iff_mul_le hden]
    refine Nat.le_of_mul_le_mul_right ?_ (Nat.two_pow_pos b)
    rw [Nat.mul_right_comm, ← Nat.pow_add, Nat.mul_right_comm n]
    exact (Nat.mul_le_mul_right den (Nat.pow_le_pow_right (by decide) (by omega))).trans h
  exact (nearest_mul_two_pow hden hlarge b).symm

end

/-- the first step keeps the order of sizes that are not far below one byte -/
theorem steps_le_or {d d' : DecimalText} {b b' : Nat} (hb : b ≤ 20) (hb' : b' ≤ 20)
    (h : d.value * 2 ^ b ≤ d'.value * 2 ^ b') :
    steps d (2 ^ b) ≤ steps d' (2 ^ b') ∨ steps d (2 ^ b) ≤ 2 ^ 72 := by
  have hden : 0 < Nat.pow 10 d.places := Nat.pow_pos (by decide)
  have hden' : 0 < Nat.pow 10 d'.places := Nat.pow_pos (by decide)
  have hcross : d.digits * 2 ^ b * Nat.pow 10 d'.places ≤ d'.digits * 2 ^ b' * Nat.pow 10 d.places := by
    rw [DecimalText.value, DecimalText.value, div_mul_eq_mul_div, div_mul_eq_mul_div,
      div_le_div_iff₀ (by positivity) (by positivity)] at h
    exact_mod_cast h
  unfold steps
  generalize Nat.pow 10 d.places = den at *
  generalize Nat.pow 10 d'.places = den' at *
  rcases Nat.lt_or_ge (d.digits * 2 ^ b * unit) (2 ^ 72 * den) with hsmall | hlarge
  · exact .inr (steps_le_of_lt hden hb hsmall)
  · left
    have hlarge' : 2 ^ 72 * den' ≤ d'.digits * 2 ^ b' * unit := by
      refine Nat.le_of_mul_le_mul_right ?_ hden
      calc 2 ^ 72 * den' * den = 2 ^ 72 * den * den' := Nat.mul_right_comm _ _ _
        _ ≤ d.digits * 2 ^ b * unit * den' := Nat.mul_le_mul_right _ hlarge
        _ = d.digits * 2 ^ b * den' * unit := Nat.mul_right_comm _ _ _
        _ ≤ d'.digits * 2 ^ b' * den * unit := Nat.mul_le_mul_right _ hcross
        _ = d'.digits * 2 ^ b' * unit * den := Nat.mul_right_comm _ _ _
    rw [steps_of_le hden hb hlarge, steps_of_le hden' hb' hlarge']
    exact nearest_mono hden hden' hcross

/-! ## sizes -/

/-- **The order of sizes.**  What is accepted, or refused as too large, is a decimal number with a unit.
Of two such sizes the one of more bytes is given at least as many, and is too large if the other
one is. -/
theorem parseSize_mono (value value' : Text) :
    ((∃ d bytes, IsSize value d bytes) ↔
      (∃ n, parseSize value = .ok n) ∨ parseSize value = .error ⟨.sizeTooLarge, value⟩) ∧
    ∀ d bytes d' bytes', IsSize value d bytes → IsSize value' d' bytes' →
      d.value * bytes ≤ d'.value * bytes' →
      (∀ n n', parseSize value = .ok n → parseSize value' = .ok n' → n ≤ n') ∧
      (parseSize value = .error ⟨.sizeTooLarge, value⟩ →
        parseSize value' = .error ⟨.sizeTooLarge, value'⟩) := by
  refine ⟨exists_isSize_iff, ?_⟩
  intro d bytes d' bytes' h h' hle
  rw [parseSize_of_isSize h, parseSize_of_isSize h']
  obtain ⟨_, _, -, -, hunit, -⟩ := h
  obtain ⟨_, _, -, -, hunit', -⟩ := h'
  obtain ⟨b, rfl, -, hb⟩ := unitBytes?_eq_some hunit
  obtain ⟨b', rfl, -, hb'⟩ := unitBytes?_eq_some hunit'
  push_cast at hle
  rcases steps_le_or hb hb' hle with hsteps | hsmall
  · by_cases hlarge : ceiling ≤ steps d (2 ^ b)
    · rw [if_pos hlarge, if_pos (hlarge.trans hsteps)]
      exact ⟨nofun, fun _ => rfl⟩
    · rw [if_neg hlarge]
      refine ⟨?_, nofun⟩
      intro n n' hn hn'
      split at hn'
      · cases hn'
      · cases hn
        cases hn'
        exact wholeBytes_mono hsteps
  · rw [if_neg (lt_ceiling hsmall).not_ge]
    refine ⟨?_, nofun⟩
    intro n n' hn hn'
    cases hn
    rw [wholeBytes_eq_zero hsmall]
    exact Nat.zero_le _

theorem parseSize_mono_units :
    IsSize "0.5mB" ⟨5, 1⟩ 1048576 ∧ IsSize "513Kb" ⟨513, 0⟩ 1024 ∧
      DecimalText.value ⟨5, 1⟩ * (1048576 : Nat) ≤ DecimalText.value ⟨513, 0⟩ * (1024 : Nat) ∧
      parseSize "0.5mB" = .ok 524288 ∧ parseSize "513Kb" = .ok 525312 ∧ 524288 ≤ 525312 := by
  have h : IsSize "0.5mB" ⟨5, 1⟩ 1048576 :=
    ⟨"0.5", "mB", by decide, by decide, by decide, by decide⟩
  have h' : IsSize "513Kb" ⟨513, 0⟩ 1024 :=
    ⟨"513", "Kb", by decide, by decide, by decide, by decide⟩
  have hle : DecimalText.value ⟨5, 1⟩ * (1048576 : Nat) ≤ DecimalText.value ⟨513, 0⟩ * (1024 : Nat) := by
    rw [DecimalText.value, DecimalText.value]
    norm_num
  have hn : parseSize "0.5mB" = .ok 524288 := by decide +kernel
  have hn' : parseSize "513Kb" = .ok 525312 := by decide +kernel
  exact ⟨h, h', hle, hn, hn', ((parseSize_mono _ _).2 _ _ _ _ h h' hle).1 _ _ hn hn'⟩

end Mailroom.Filter
