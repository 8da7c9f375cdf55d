import Mathlib.Algebra.Order.Group.Abs
import Mathlib.Algebra.Order.Group.Int
import Mathlib.Data.Int.Order.Basic
import Mathlib.Tactic.SplitIfs
import Mailroom.Proofs.Time.Clock

/-!
# Changes of clocks

A clock is changed where its offset is not that of the second before.  A zone has at most two offsets, so
a clock shows a reading at most twice; which of the two instants is found depends on how far the changes
lie apart.

* `Zone.ChangesAt`, `Zone.ChangesApart`   changes of the clock, and how far they lie apart;
* `Zone.shift`       by how much a change moves the clock;
* `Zone.Orderly`     zones whose changes lie further apart than a day and a shift;
* `steady`, `steady_of_eq`   between changes the offset stays the same;
* `instantFor_eq`    in an orderly zone the instant that is asked for is found;
* `readLocal_of_shown`, `ofInstant_of_margin`   readings and instants are found from each other there.
-/

namespace Mailroom.Zone

/-- the clock is changed at an instant -/
def ChangesAt (z : Zone) (t : Int) : Prop := z.offsetAt (t - 1) ≠ z.offsetAt t

/-- changes of the clock lie at least `n` seconds apart -/
def ChangesApart (z : Zone) (n : Int) : Prop :=
  ∀ t u, z.ChangesAt t → z.ChangesAt u → t < u → n ≤ u - t

/-- by how much a change moves the clock -/
def shift (z : Zone) : Int :=
  match z.summer with
  | none => 0
  | some s => |s.period.offset - z.standard.offset|

/-- a zone with offsets of less than a day whose changes move the clock by a day at most, and lie at least
as far apart as a day and what they move it by -/
structure Orderly (z : Zone) : Prop where
  within : z.OffsetsWithinDay
  shift_le : z.shift ≤ secondsPerDay
  apart : z.ChangesApart (secondsPerDay + z.shift)

variable {z : Zone}

theorem ChangesApart.mono {m n : Int} (h : z.ChangesApart n) (hle : m ≤ n) : z.ChangesApart m :=
  fun t u ht hu htu => hle.trans (h t u ht hu htu)

/-! ## two offsets -/

theorem offsetAt_cases (z : Zone) : (∀ t, z.offsetAt t = z.standard.offset) ∨
    ∃ s, z.summer = some s ∧
      ∀ t, z.offsetAt t = if z.isSummer s t then s.period.offset else z.standard.offset := by
  cases hs : z.summer with
  | none =>
    left
    intro t
    rw [offsetAt, periodAt, hs]
  | some s =>
    right
    refine ⟨s, rfl, fun t => ?_⟩
    rw [offsetAt, periodAt, hs]
    dsimp only
    split <;> rfl

theorem offsetAt_eq_or {t u : Int} (h : z.offsetAt t ≠ z.offsetAt u) (v : Int) :
    z.offsetAt v = z.offsetAt t ∨ z.offsetAt v = z.offsetAt u := by
  rcases z.offsetAt_cases with hall | ⟨s, -, hall⟩
  · rw [hall, hall] at h
    exact absurd rfl h
  · rw [hall, hall] at h
    rw [hall, hall t, hall u]
    revert h
    split_ifs <;> simp

theorem sub_le_shift (t u : Int) : z.offsetAt t - z.offsetAt u ≤ z.shift := by
  rcases z.offsetAt_cases with hall | ⟨s, hs, hall⟩
  · rw [hall, hall, sub_self, shift]
    split
    · exact le_rfl
    · exact abs_nonneg _
  · have hle := le_abs_self (s.period.offset - z.standard.offset)
    have hle' := neg_le_abs (s.period.offset - z.standard.offset)
    have hpos := abs_nonneg (s.period.offset - z.standard.offset)
    rw [hall, hall, shift, hs]
    dsimp only
    split_ifs <;> omega

/-! ## between changes -/

theorem exists_change {t u : Int} (htu : t ≤ u) (h : z.offsetAt t ≠ z.offsetAt u) :
    ∃ c, t < c ∧ c ≤ u ∧ z.ChangesAt c := by
  induction u, htu using Int.leInduction with
  | base => exact absurd rfl h
  | succ u htu ih =>
    by_cases hlast : z.offsetAt u = z.offsetAt (u + 1)
    · rw [← hlast] at h
      obtain ⟨c, htc, hcu, hc⟩ := ih h
      exact ⟨c, htc, by omega, hc⟩
    · refine ⟨u + 1, by omega, le_rfl, ?_⟩
      rwa [ChangesAt, add_sub_cancel_right]

/-- no two changes lie between instants that are near to each other -/
theorem steady {n t u v : Int} (hz : z.ChangesApart n) (htu : t ≤ u) (huv : u ≤ v) (hn : v ≤ t + n) :
    z.offsetAt t = z.offsetAt u ∨ z.offsetAt u = z.offsetAt v := by
  by_contra hboth
  rw [not_or] at hboth
  obtain ⟨c, htc, hcu, hc⟩ := exists_change htu hboth.1
  obtain ⟨d, hud, hdv, hd⟩ := exists_change huv hboth.2
  have hapart := hz c d hc hd (by omega)
  omega

/-- between instants with one offset that are near to each other, the offset stays the same -/
theorem steady_of_eq {n x y v : Int} (hz : z.ChangesApart n) (hv : x ≤ v ∧ v ≤ y ∨ y ≤ v ∧ v ≤ x)
    (hn : y ≤ x + n) (hn' : x ≤ y + n) (h : z.offsetAt x = z.offsetAt y) : z.offsetAt v = z.offsetAt x := by
  rcases hv with ⟨hxv, hvy⟩ | ⟨hyv, hvx⟩
  · rcases steady hz hxv hvy hn with hsame | hsame
    · exact hsame.symm
    · exact hsame.trans h.symm
  · rcases steady hz hyv hvx hn' with hsame | hsame
    · exact hsame.symm.trans h.symm
    · exact hsame

/-! ## readings -/

theorem wallAt_eq_iff {t wall : Int} : z.wallAt t = wall ↔ t = wall - z.offsetAt t := by
  unfold wallAt
  omega

/-- of the instants at which the clock shows a reading, one is the first -/
theorem exists_first {t wall : Int} (ht : z.wallAt t = wall) :
    ∃ u, z.wallAt u = wall ∧ ∀ v, z.wallAt v = wall → u ≤ v := by
  by_cases hearlier : ∃ u, z.wallAt u = wall ∧ u < t
  · obtain ⟨u, hu, hut⟩ := hearlier
    refine ⟨u, hu, fun v hv => ?_⟩
    unfold wallAt at ht hu hv
    have hne : z.offsetAt u ≠ z.offsetAt t := by omega
    rcases offsetAt_eq_or hne v with h | h <;> omega
  · refine ⟨t, ht, fun v hv => ?_⟩
    by_contra hvt
    exact hearlier ⟨v, hv, by omega⟩

/-- the instant that is asked for lies on one side of another one, and the offset that is tried is found on
the same side of the first that is tried -/
def OnSide (z : Zone) (wall t u w : Int) : Prop :=
  t ≤ u ∧ w = wall - z.offsetAt wall - secondsPerDay ∨ u ≤ t ∧ w = wall - z.offsetAt wall + secondsPerDay

section
variable (hz : z.Orderly) {t wall : Int}
include hz

/-- where the offset of the day beside is the same, there is no other instant on that side -/
theorem eq_of_same_offset {w : Int} (ht : z.wallAt t = wall) (h1 : z.wallAt (wall - z.offsetAt wall) = wall)
    (hab : z.offsetAt wall = z.offsetAt w) (hside : z.OnSide wall t (wall - z.offsetAt wall) w) :
    wall - z.offsetAt wall = t := by
  have ho := wallAt_eq_iff.1 ht
  have hu1 := wallAt_eq_iff.1 h1
  have hshift := sub_le_shift (z := z) t wall
  have hshift' := sub_le_shift (z := z) wall t
  have hday := hz.shift_le
  have hpos : (0 : Int) < secondsPerDay := by decide
  unfold OnSide at hside
  have hsame : z.offsetAt t = z.offsetAt w :=
    steady_of_eq (hz.apart.mono (show secondsPerDay ≤ _ by omega)) (by omega) (by omega) (by omega)
      (show z.offsetAt w = z.offsetAt (wall - z.offsetAt wall) by omega)
  omega

/-- where it is another one and fits, the first that is tried is not the one that is asked for: the change on
that side would be followed by the next one too soon -/
theorem ne_of_other_offset {w : Int} (h1 : z.wallAt (wall - z.offsetAt wall) = wall)
    (hab : z.offsetAt wall ≠ z.offsetAt w) (h2 : z.wallAt (wall - z.offsetAt w) = wall)
    (hside : z.OnSide wall t (wall - z.offsetAt w) w) : wall - z.offsetAt wall ≠ t := by
  intro heq
  have hu1 := wallAt_eq_iff.1 h1
  have hu2 := wallAt_eq_iff.1 h2
  have hshift := sub_le_shift (z := z) w wall
  have hshift' := sub_le_shift (z := z) wall w
  have hpos : (0 : Int) < secondsPerDay := by decide
  unfold OnSide at hside
  have hsame : z.offsetAt (wall - z.offsetAt wall) = z.offsetAt w :=
    steady_of_eq hz.apart (by omega) (by omega) (by omega)
      (show z.offsetAt w = z.offsetAt (wall - z.offsetAt w) by omega)
  omega

variable (ht : z.wallAt t = wall) {later : Bool} (hfirst : later = false → ∀ u, z.wallAt u = wall → t ≤ u)
  (hlast : later = true → ∀ u, z.wallAt u = wall → u ≤ t)
include ht hfirst hlast

/-- of the instants at which the clock shows a reading, the first one is found, or the last one -/
theorem instantFor_eq : z.instantFor wall later = t := by
  have ho := wallAt_eq_iff.1 ht
  unfold instantFor
  dsimp only
  by_cases h1 : z.wallAt (wall - z.offsetAt wall) = wall
  · rw [if_pos h1]
    obtain ⟨w, hw⟩ : ∃ w, (if later = true then wall - z.offsetAt wall + secondsPerDay
      else wall - z.offsetAt wall - secondsPerDay) = w := ⟨_, rfl⟩
    have hside : ∀ u, z.wallAt u = wall → z.OnSide wall t u w := by
      intro u hu
      cases later with
      | false => exact .inl ⟨hfirst rfl u hu, hw.symm⟩
      | true => exact .inr ⟨hlast rfl u hu, hw.symm⟩
    rw [hw]
    by_cases hab : z.offsetAt wall = z.offsetAt w
    · rw [if_pos ⟨h1, hab⟩]
      exact eq_of_same_offset hz ht h1 hab (hside _ h1)
    · rw [if_neg fun h => hab h.2]
      by_cases h2 : z.wallAt (wall - z.offsetAt w) = wall
      · have hne := ne_of_other_offset hz h1 hab h2 (hside _ h2)
        rw [if_pos h2]
        rcases offsetAt_eq_or hab t with h | h <;> omega
      · rw [if_neg h2, if_pos h1]
        rcases offsetAt_eq_or hab t with h | h
        · omega
        · exact absurd (h ▸ ho ▸ ht) h2
  · -- where the offset at the reading itself is wrong, the other one is right
    rw [if_neg h1, if_neg fun h => h1 h.1]
    have hother : z.offsetAt wall ≠ z.offsetAt (wall - z.offsetAt wall) :=
      fun h => h1 (wallAt_eq_iff.2 (by omega))
    have hb : z.offsetAt t = z.offsetAt (wall - z.offsetAt wall) := by
      rcases offsetAt_eq_or hother t with h | h
      · exact absurd (h ▸ ho ▸ ht) h1
      · exact h
    rw [← hb, ← ho, if_pos ht]

/-- a reading some days from both ends is read as the instant that is asked for -/
theorem readLocal_of_shown (h : firstSecond + 4 * secondsPerDay ≤ wall)
    (h' : wall < endSecond - 4 * secondsPerDay) (micros : Nat) :
    z.readLocal wall micros later = .ok ⟨t, micros, z.offsetAt t⟩ := by
  rw [readLocal_of_margin hz.within h h', instantFor_eq hz ht hfirst hlast, ← wallAt_eq_iff.1 ht]

end

/-! ## instants -/

/-- no third instant lies behind two with the same reading -/
theorem le_of_earlier {t u : Int} (hu : z.wallAt u = z.wallAt t) (hut : u < t) {v : Int}
    (hv : z.wallAt v = z.wallAt t) : v ≤ t := by
  unfold wallAt at hu hv
  have hne : z.offsetAt u ≠ z.offsetAt t := by omega
  rcases offsetAt_eq_or hne v with h | h
  · omega
  · omega

section
variable (hz : z.Orderly) {t u : Int}
include hz

/-- an earlier instant with the same reading has the offset of the day before -/
theorem offsetAt_of_earlier (hu : z.wallAt u = z.wallAt t) (hut : u < t) :
    z.offsetAt (t - secondsPerDay) = z.offsetAt u := by
  have hshift := sub_le_shift (z := z) u t
  have hzero := sub_le_shift (z := z) t t
  have hday := hz.shift_le
  unfold wallAt at hu
  rcases steady (hz.apart.mono (by omega)) (t := t - secondsPerDay) (u := u) (v := t)
    (n := secondsPerDay) (by omega) hut.le (by omega) with h | h
  · exact h
  · omega

/-- so an earlier instant with the same reading lies as far back as the clock was put back since the day
before -/
theorem eq_of_earlier (hu : z.wallAt u = z.wallAt t) (hut : u < t) :
    u = t + (z.offsetAt t - z.offsetAt (t - secondsPerDay)) := by
  rw [offsetAt_of_earlier hz hu hut]
  unfold wallAt at hu
  omega

variable (h : firstSecond + 5 * secondsPerDay ≤ t) (h' : t < endSecond - 5 * secondsPerDay)
include h h'

/-- an instant some days from both ends is found from its reading, if it is asked for -/
theorem readLocal_wallAt {later : Bool} (hfirst : later = false → ∀ u, z.wallAt u = z.wallAt t → t ≤ u)
    (hlast : later = true → ∀ u, z.wallAt u = z.wallAt t → u ≤ t) :
    z.readLocal (z.wallAt t) 0 later = .ok ⟨t, 0, z.offsetAt t⟩ := by
  obtain ⟨ho, ho'⟩ := hz.within t
  have hmargin : firstSecond + 4 * secondsPerDay ≤ z.wallAt t ∧
      z.wallAt t < endSecond - 4 * secondsPerDay := by
    unfold wallAt
    omega
  exact readLocal_of_shown hz rfl hfirst hlast hmargin.1 hmargin.2 0

/-- an instant some days from both ends is found again from its reading -/
theorem ofInstant_of_margin : z.ofInstant t = .ok ⟨t, 0, z.offsetAt t⟩ := by
  have hday : (0 : Int) < secondsPerDay := by decide
  obtain ⟨δ, hδ⟩ : ∃ δ, δ = z.offsetAt t - z.offsetAt (t - secondsPerDay) := ⟨_, rfl⟩
  have hshift : z.wallAt t - z.wallAt (t - secondsPerDay) - secondsPerDay = δ := by
    unfold wallAt
    omega
  have hnow : z.probe t = .ok (z.wallAt t) := probe_of_margin hz.within (by omega) (by omega)
  have hbefore : z.probe (t - secondsPerDay) = .ok (z.wallAt (t - secondsPerDay)) :=
    probe_of_margin hz.within (by omega) (by omega)
  have hearlier : ∀ u, z.wallAt u = z.wallAt t → u < t → u = t + δ := by
    intro u hu hut
    rw [hδ]
    exact eq_of_earlier hz hu hut
  unfold ofInstant
  simp only [hnow, hbefore, hshift, bind, Except.bind, pure, Except.pure]
  by_cases hback : δ < 0
  · -- where the clock was put back, it shows whether there is an earlier instant
    have hle := sub_le_shift (z := z) (t - secondsPerDay) t
    have hle' := hz.shift_le
    have hprobe : z.probe (t + δ) = .ok (z.wallAt (t + δ)) :=
      probe_of_margin hz.within (by omega) (by omega)
    simp only [if_pos hback, hprobe]
    refine readLocal_wallAt hz h h' ?_ ?_
    · intro hne u hu
      by_contra hut
      rw [← hearlier u hu (by omega), hu] at hne
      simp at hne
    · intro heq u hu
      exact le_of_earlier (by simpa using heq) (by omega) hu
  · -- where it was not, there is none
    simp only [if_neg hback]
    refine readLocal_wallAt hz h h' (fun _ u hu => ?_) nofun
    by_contra hut
    have hat := hearlier u hu (by omega)
    omega

end

end Mailroom.Zone
