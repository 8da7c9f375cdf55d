import Mailroom.Proofs.Time.Changes

/-!
# When summers begin and end

Where every summer lies within its year, clocks are changed when a summer begins and when it ends, and
at no other time.

* `SummersWithin`             zones whose summers lie within their years;
* `changesAt_cases`           when clocks are changed there;
* `changesApart_of_summers`   how far these changes lie apart;
* `centralEurope`             an orderly zone;
* `shortSummer`, `wideShift`, `dayBehind`   zones that each miss one of the conditions of order.
-/

namespace Mailroom

/-- how many seconds a change lies behind the beginning of the year -/
def ChangeRule.sinceNewYear (r : ChangeRule) (year offset : Int) : Int :=
  r.day.index year * secondsPerDay - offset + r.time

namespace Zone

/-! ## years -/

/-- the beginning of the year from which the changes of a year are counted -/
def newYear (y : Int) : Int := (if 1970 < y then (⟨y, 1, 1⟩ : Date).toDays else 0) * secondsPerDay

theorem instant_eq (r : ChangeRule) (y offset : Int) :
    r.instant y offset = newYear y + r.sinceNewYear y offset := by
  unfold ChangeRule.instant ChangeRule.sinceNewYear newYear
  dsimp only
  rw [Int.add_mul]
  omega

theorem newYear_eq {y : Int} (h : 1970 ≤ y) :
    newYear y = (⟨y, 1, 1⟩ : Date).toDays * secondsPerDay := by
  unfold newYear
  split
  · rfl
  · rw [show y = 1970 by omega]
    decide

theorem newYear_add_le {y y' : Int} (h : 1970 ≤ y) (hlt : y < y') :
    newYear y + 365 * secondsPerDay ≤ newYear y' := by
  have hyear := Date.daysBeforeYear_add_le hlt
  rw [Date.total_monthLengths] at hyear
  rw [newYear_eq h, newYear_eq (by omega), Date.toDays_newYear, Date.toDays_newYear]
  unfold secondsPerDay
  split at hyear <;> omega

theorem yearOf_eq_iff {t y : Int} : yearOf t = y ↔
    (⟨y, 1, 1⟩ : Date).toDays * secondsPerDay ≤ t ∧
      t < (⟨y + 1, 1, 1⟩ : Date).toDays * secondsPerDay := by
  unfold yearOf secondsPerDay
  rw [Date.year_ofDays_iff]
  omega

theorem neg_of_yearOf {t : Int} (h : yearOf t < 1970) : t < 0 := by
  have hfirst : (⟨1970, 1, 1⟩ : Date).toDays = 0 := by decide
  obtain ⟨-, hend⟩ := yearOf_eq_iff.1 (rfl : yearOf t = yearOf t)
  have hle : (⟨yearOf t + 1, 1, 1⟩ : Date).toDays ≤ (⟨1970, 1, 1⟩ : Date).toDays := by
    rw [Date.toDays_newYear, Date.toDays_newYear]
    rcases Int.lt_or_eq_of_le (Int.add_one_le_of_lt h) with hlt | heq
    · have hyear := Date.daysBeforeYear_add_le hlt
      omega
    · rw [heq]
  unfold secondsPerDay at hend
  omega

/-! ## summers -/

/-- the summers of all years begin at least `lo` seconds after the year does, last at least `n` seconds, and
end at most `hi` seconds after the year has begun -/
structure SummersWithin (z : Zone) (lo hi n : Int) : Prop where
  start : ∀ s, z.summer = some s → ∀ y, lo ≤ s.start.sinceNewYear y z.standard.offset
  lasts : ∀ s, z.summer = some s → ∀ y,
    s.start.sinceNewYear y z.standard.offset + n ≤ s.stop.sinceNewYear y s.period.offset
  stop : ∀ s, z.summer = some s → ∀ y, s.stop.sinceNewYear y s.period.offset ≤ hi

section
variable {z : Zone} {s : Summer} {lo hi n : Int} (hw : z.SummersWithin lo hi n) (hs : z.summer = some s)
  (hn : 0 ≤ n)
include hw hs hn

theorem isSummer_iff (t : Int) : z.isSummer s t = true ↔
    newYear (yearOf t) + s.start.sinceNewYear (yearOf t) z.standard.offset ≤ t ∧
      t < newYear (yearOf t) + s.stop.sinceNewYear (yearOf t) s.period.offset := by
  have hlasts := hw.lasts s hs (yearOf t)
  unfold isSummer
  dsimp only
  rw [instant_eq, instant_eq, if_neg (by omega), Bool.and_eq_true, decide_eq_true_eq, decide_eq_true_eq]

variable (hlo : 0 < lo) (hhi : hi < 365 * secondsPerDay)
include hlo

theorem year_of_summer {t : Int} (h : z.isSummer s t = true) : 1970 ≤ yearOf t := by
  by_contra hearly
  have hneg := neg_of_yearOf (Int.not_le.1 hearly)
  have hstart := hw.start s hs (yearOf t)
  have hbegun := ((isSummer_iff hw hs hn t).1 h).1
  rw [newYear, if_neg (by omega)] at hbegun
  omega

include hhi

/-- at the turn of a year it is not summer -/
theorem same_year_of_summer {t : Int} (h : z.isSummer s (t - 1) = true ∨ z.isSummer s t = true) :
    yearOf (t - 1) = yearOf t := by
  have hyear := yearOf_eq_iff.1 (rfl : yearOf t = yearOf t)
  have hyear' := yearOf_eq_iff.1 (rfl : yearOf (t - 1) = yearOf (t - 1))
  rcases h with h | h
  · have hfrom := year_of_summer hw hs hn hlo h
    have hend := ((isSummer_iff hw hs hn (t - 1)).1 h).2
    have hstop := hw.stop s hs (yearOf (t - 1))
    have hnext := newYear_add_le hfrom (Int.lt_succ (yearOf (t - 1)))
    rw [newYear_eq (y := yearOf (t - 1) + 1) (by omega)] at hnext
    exact (yearOf_eq_iff.2 ⟨by omega, by omega⟩).symm
  · have hfrom := year_of_summer hw hs hn hlo h
    have hbegun := ((isSummer_iff hw hs hn t).1 h).1
    have hstart := hw.start s hs (yearOf t)
    rw [newYear_eq hfrom] at hbegun
    exact yearOf_eq_iff.2 ⟨by omega, by omega⟩

/-- clocks are changed where a summer begins or ends, from 1970 on -/
theorem changesAt_cases {t : Int} (ht : z.ChangesAt t) :
    1970 ≤ yearOf t ∧
      (t = newYear (yearOf t) + s.start.sinceNewYear (yearOf t) z.standard.offset ∨
        t = newYear (yearOf t) + s.stop.sinceNewYear (yearOf t) s.period.offset) := by
  have hne : z.isSummer s (t - 1) ≠ z.isSummer s t := by
    intro h
    apply ht
    unfold offsetAt periodAt
    rw [hs]
    dsimp only
    rw [h]
  have hsummer : z.isSummer s (t - 1) = true ∨ z.isSummer s t = true := by
    cases h : z.isSummer s (t - 1)
    · exact .inr (by simpa [h] using hne)
    · exact .inl rfl
  have hyear := same_year_of_summer hw hs hn hlo hhi hsummer
  have hboth : ¬(z.isSummer s (t - 1) = true ↔ z.isSummer s t = true) :=
    fun h => hne (Bool.eq_iff_iff.2 h)
  rw [isSummer_iff hw hs hn, isSummer_iff hw hs hn, hyear] at hboth
  refine ⟨?_, by omega⟩
  rcases hsummer with h | h
  · exact hyear ▸ year_of_summer hw hs hn hlo h
  · exact year_of_summer hw hs hn hlo h

omit hs

theorem changesApart_of_summers (hyears : hi + n ≤ lo + 365 * secondsPerDay) : z.ChangesApart n := by
  intro t u ht hu htu
  cases hs : z.summer with
  | none => simp [ChangesAt, offsetAt, periodAt, hs] at ht
  | some s =>
    obtain ⟨hfrom, ht⟩ := changesAt_cases hw hs hn hlo hhi ht
    obtain ⟨hfrom', hu⟩ := changesAt_cases hw hs hn hlo hhi hu
    have hstart := hw.start s hs (yearOf t)
    have hlasts := hw.lasts s hs (yearOf t)
    have hstop := hw.stop s hs (yearOf t)
    have hstart' := hw.start s hs (yearOf u)
    have hlasts' := hw.lasts s hs (yearOf u)
    have hstop' := hw.stop s hs (yearOf u)
    rcases Int.lt_trichotomy (yearOf t) (yearOf u) with hlt | heq | hlt
    · have hnext := newYear_add_le hfrom hlt
      omega
    · rw [← heq] at hu
      omega
    · have hnext := newYear_add_le hfrom' hlt
      omega

end

/-! ## zones -/

/-- the `week`-th weekday of a month lies in the month -/
theorem index_ofMonth {m : Nat} (hm : 1 ≤ m ∧ m ≤ 12) (week weekday : Nat) (y : Int) :
    (Date.daysBeforeMonth (Date.isLeap y) m : Int) ≤ (ChangeDay.ofMonth m week weekday).index y ∧
      (ChangeDay.ofMonth m week weekday).index y <
        Date.daysBeforeMonth (Date.isLeap y) m + Date.monthLength (Date.isLeap y) m := by
  have hall : ∀ leap, ∀ m : Fin 12, 28 ≤ Date.monthLength leap (m + 1) := by decide
  have hlength := hall (Date.isLeap y) ⟨m - 1, by omega⟩
  dsimp only at hlength
  rw [Nat.sub_add_cancel hm.1] at hlength
  unfold ChangeDay.index
  dsimp only
  push_cast
  omega

theorem offsetsWithinDay_of_summer {z : Zone} {s : Summer} (hs : z.summer = some s)
    (hstandard : WithinDay z.standard.offset) (hsummer : WithinDay s.period.offset) :
    z.OffsetsWithinDay := by
  intro t
  unfold offsetAt periodAt
  rw [hs]
  dsimp only
  split
  · exact hsummer
  · exact hstandard

/-- clocks with summer time from March to October -/
def centralEurope : Zone :=
  ⟨⟨3600, "CET"⟩, some ⟨⟨7200, "CEST"⟩, ⟨.ofMonth 3 5 0, 7200⟩, ⟨.ofMonth 10 5 0, 10800⟩⟩⟩

theorem read?_centralEurope : read? "CET-1CEST,M3.5.0,M10.5.0/3" = some centralEurope := by
  decide

theorem orderly_centralEurope : centralEurope.Orderly := by
  have hmarch := index_ofMonth (m := 3) (by decide) 5 0
  have hoctober := index_ofMonth (m := 10) (by decide) 5 0
  have hdays : ∀ leap, 59 ≤ Date.daysBeforeMonth leap 3 ∧
      Date.daysBeforeMonth leap 3 + Date.monthLength leap 3 ≤ 91 ∧
      273 ≤ Date.daysBeforeMonth leap 10 ∧
      Date.daysBeforeMonth leap 10 + Date.monthLength leap 10 ≤ 305 := by decide
  have hyears : centralEurope.SummersWithin (58 * 86400) (305 * 86400) (100 * 86400) := by
    constructor <;>
    · rintro _ ⟨⟩ y
      have hmarch := hmarch y
      have hoctober := hoctober y
      have hdays := hdays (Date.isLeap y)
      unfold ChangeRule.sinceNewYear secondsPerDay
      dsimp only [centralEurope]
      omega
  refine ⟨offsetsWithinDay_of_summer rfl (by decide) (by decide), by decide, ?_⟩
  refine (changesApart_of_summers hyears (by decide) (by decide) (by decide) (by decide)).mono ?_
  decide

/-- clocks with a summer that lasts a second less than a day and an hour -/
def shortSummer : Zone :=
  ⟨⟨-36000, "HST"⟩, some ⟨⟨-32400, "HDT"⟩, ⟨.julian 100, 7200⟩, ⟨.julian 101, 14399⟩⟩⟩

theorem read?_shortSummer : read? "HST10HDT,J100/2,J101/3:59:59" = some shortSummer := by
  decide +kernel

theorem within_shortSummer : shortSummer.OffsetsWithinDay :=
  offsetsWithinDay_of_summer rfl (by decide) (by decide)

theorem apart_shortSummer : shortSummer.ChangesApart (secondsPerDay + 3599) := by
  have hyears : shortSummer.SummersWithin (99 * 86400) (103 * 86400) (secondsPerDay + 3599) := by
    constructor <;>
    · rintro _ ⟨⟩ y
      unfold ChangeRule.sinceNewYear ChangeDay.index secondsPerDay
      dsimp only [shortSummer]
      cases Date.isLeap y <;> decide
  exact changesApart_of_summers hyears (by decide) (by decide) (by decide) (by decide)

/-- clocks that a change moves by more than a day -/
def wideShift : Zone :=
  ⟨⟨-43200, "AAA"⟩, some ⟨⟨50400, "BBB"⟩, ⟨.julian 100, 7200⟩, ⟨.julian 200, 7200⟩⟩⟩

theorem read?_wideShift : read? "AAA12BBB-14,J100/2,J200/2" = some wideShift := by
  decide

theorem within_wideShift : wideShift.OffsetsWithinDay :=
  offsetsWithinDay_of_summer rfl (by decide) (by decide)

theorem apart_wideShift : wideShift.ChangesApart (secondsPerDay + wideShift.shift) := by
  have hyears : wideShift.SummersWithin (99 * 86400) (201 * 86400) (secondsPerDay + wideShift.shift) := by
    constructor <;>
    · rintro _ ⟨⟩ y
      unfold ChangeRule.sinceNewYear ChangeDay.index secondsPerDay
      dsimp only [wideShift]
      cases Date.isLeap y <;> decide
  exact changesApart_of_summers hyears (by decide) (by decide) (by decide) (by decide)

/-- a clock that is a whole day behind that of Greenwich and is never changed -/
def dayBehind : Zone := ⟨⟨-86400, "XXX"⟩, none⟩

theorem read?_dayBehind : read? "XXX24" = some dayBehind := by decide

theorem apart_dayBehind (n : Int) : dayBehind.ChangesApart n := fun _ _ h => absurd rfl h

end Zone
end Mailroom
