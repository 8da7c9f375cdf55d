import Mailroom.Time.Stamp

/-!
# Days and dates

A day number is taken apart into whole periods of years, then into months.  What is taken apart is
put together again, and the other way round.

* `ofDays_exists`    the date of a day number exists in the calendar;
* `toDays_ofDays`    its day number is the one it was made from;
* `ofDays_toDays`    the date of the day number of a date that exists is this date;
* `year_ofDays_iff`  the days of a year are those from its first one to the first one of the next;
* `year_ofDays_mem`  days of the years that clocks read have dates of these years.
-/

namespace Mailroom.Date

/-! ## months -/

/-- day `n` of a sequence of months lies in one of them -/
theorem monthAndDay_spec {ls : List Nat} {n : Nat} (h : n < total ls) (m : Nat) :
    ∃ k d, monthAndDay n ls m = (m + k, d + 1) ∧ k < ls.length ∧ total (ls.take k) + d = n ∧
      d < ls.getD k 0 := by
  induction ls generalizing n m with
  | nil => simp at h
  | cons l ls ih =>
    rw [monthAndDay]
    by_cases hn : n < l
    · rw [if_pos hn]
      exact ⟨0, n, rfl, Nat.succ_pos _, by simp, by simpa using hn⟩
    rw [if_neg hn]
    have hrest : n - l < total ls := by
      rw [total_cons] at h
      omega
    obtain ⟨k, d, e, hk, hsum, hd⟩ := ih hrest (m + 1)
    refine ⟨k + 1, d, ?_, Nat.succ_lt_succ hk, ?_, ?_⟩
    · rw [e, Nat.add_assoc, Nat.add_comm 1 k]
    · rw [List.take_succ_cons, total_cons]
      omega
    · simpa using hd

/-- day `d` of month `k`, counted from 0, lies in this month -/
theorem monthAndDay_total {ls : List Nat} {k d : Nat} (hd : d < ls.getD k 0) (m : Nat) :
    monthAndDay (total (ls.take k) + d) ls m = (m + k, d + 1) := by
  induction ls generalizing k m with
  | nil => simp at hd
  | cons l ls ih =>
    rw [monthAndDay]
    cases k with
    | zero =>
      have hl : d < l := by simpa using hd
      simp [hl]
    | succ k =>
      have hd' : d < ls.getD k 0 := by simpa using hd
      have hpast : ¬total ((l :: ls).take (k + 1)) + d < l := by
        rw [List.take_succ_cons, total_cons]
        omega
      have hrest : total ((l :: ls).take (k + 1)) + d - l = total (ls.take k) + d := by
        rw [List.take_succ_cons, total_cons]
        omega
      rw [if_neg hpast, hrest, ih hd', Nat.add_assoc, Nat.add_comm 1 k]

theorem total_monthLengths (leap : Bool) : total (monthLengths leap) = if leap then 366 else 365 := by
  cases leap <;> rfl

/-! ## years -/

/-- a year number behind `a` periods of 400 years, `b` of 100, `c` of 4 and `d` single years -/
theorem isLeap_split {a b c d : Int} (hb : 0 ≤ b ∧ b ≤ 3) (hc : 0 ≤ c ∧ c ≤ 24) (hd : 0 ≤ d ∧ d ≤ 3) :
    isLeap (a * 400 + b * 100 + c * 4 + d + 1) = true ↔ d = 3 ∧ (c = 24 → b = 3) := by
  simp only [isLeap, Bool.and_eq_true, Bool.or_eq_true, decide_eq_true_eq]
  omega

theorem daysBeforeYear_split {a b c d : Int} (hb : 0 ≤ b ∧ b ≤ 3) (hc : 0 ≤ c ∧ c ≤ 24)
    (hd : 0 ≤ d ∧ d ≤ 3) :
    daysBeforeYear (a * 400 + b * 100 + c * 4 + d + 1) = a * 146097 + b * 36524 + c * 1461 + d * 365 := by
  unfold daysBeforeYear
  dsimp only
  omega

/-- the date of a day number: the year whose days hold it, and a day of that year -/
theorem ofDays_spec (days : Int) : ∃ (y : Int) (r : Nat),
    ofDays days = ⟨y, (monthAndDay r (monthLengths (isLeap y)) 1).1,
      (monthAndDay r (monthLengths (isLeap y)) 1).2⟩ ∧
    daysBeforeYear y + r = days + epochDay ∧ r < total (monthLengths (isLeap y)) := by
  let n := days + epochDay
  let r400 := n % 146097
  let b := min (r400 / 36524) 3
  let r100 := r400 - b * 36524
  let c := r100 / 1461
  let r4 := r100 % 1461
  let d := min (r4 / 365) 3
  let r1 := r4 - d * 365
  have hb : 0 ≤ b ∧ b ≤ 3 := by omega
  have hc : 0 ≤ c ∧ c ≤ 24 := by omega
  have hd : 0 ≤ d ∧ d ≤ 3 := by omega
  have hr : 0 ≤ r1 := by omega
  refine ⟨n / 146097 * 400 + b * 100 + c * 4 + d + 1, r1.toNat, rfl, ?_, ?_⟩
  · rw [daysBeforeYear_split hb hc hd]
    omega
  · rw [total_monthLengths]
    -- the 366th day is reached only in the last year of four, and not where a century is short
    by_cases hleap : d = 3 ∧ (c = 24 → b = 3)
    · rw [if_pos ((isLeap_split hb hc hd).2 hleap)]
      omega
    · rw [if_neg fun h => hleap ((isLeap_split hb hc hd).1 h)]
      omega

/-- the days of a year are fewer than those up to a later one -/
theorem daysBeforeYear_add_le {y y' : Int} (h : y < y') :
    daysBeforeYear y + total (monthLengths (isLeap y)) ≤ daysBeforeYear y' := by
  have hsucc : daysBeforeYear (y + 1) = daysBeforeYear y + total (monthLengths (isLeap y)) := by
    rw [total_monthLengths]
    unfold daysBeforeYear isLeap
    dsimp only
    split <;> rename_i hleap <;>
      simp only [Bool.and_eq_true, Bool.or_eq_true, decide_eq_true_eq] at hleap <;> omega
  rw [← hsucc]
  unfold daysBeforeYear
  dsimp only
  omega

/-- a day lies in one year only -/
theorem year_unique {y y' : Int} {r r' : Nat} (h : daysBeforeYear y + r = daysBeforeYear y' + r')
    (hr : r < total (monthLengths (isLeap y))) (hr' : r' < total (monthLengths (isLeap y'))) :
    y = y' := by
  rcases Int.lt_trichotomy y y' with hlt | heq | hlt
  · have hle := daysBeforeYear_add_le hlt
    omega
  · exact heq
  · have hle := daysBeforeYear_add_le hlt
    omega

theorem ofDays_exists (days : Int) : (ofDays days).Exists := by
  obtain ⟨y, r, e, -, hr⟩ := ofDays_spec days
  obtain ⟨k, d, hkd, hk, -, hd⟩ := monthAndDay_spec hr 1
  rw [e, hkd]
  have hlen : (monthLengths (isLeap y)).length = 12 := by cases isLeap y <;> rfl
  refine ⟨by simp, by simp only; omega, by simp, ?_⟩
  show d + 1 ≤ (monthLengths (isLeap y)).getD (1 + k - 1) 0
  rw [Nat.add_sub_cancel_left]
  exact hd

theorem toDays_ofDays (days : Int) : (ofDays days).toDays = days := by
  obtain ⟨y, r, e, hy, hr⟩ := ofDays_spec days
  obtain ⟨k, d, hkd, -, hsum, -⟩ := monthAndDay_spec hr 1
  have hmonth : daysBeforeMonth (isLeap y) (1 + k) + d = r := by
    rw [daysBeforeMonth, Nat.add_sub_cancel_left]
    exact hsum
  rw [e, hkd]
  unfold toDays
  push_cast
  omega

theorem ofDays_toDays {d : Date} (h : d.Exists) : ofDays d.toDays = d := by
  obtain ⟨y, r, e, hy, hr⟩ := ofDays_spec d.toDays
  obtain ⟨hm, hm', hd, hd'⟩ := h
  have hlength : ∀ leap, ∀ m : Fin 13, 1 ≤ m.val →
      daysBeforeMonth leap m + monthLength leap m ≤ total (monthLengths leap) := by decide
  have hinside := hlength (isLeap d.year) ⟨d.month, by omega⟩ hm
  dsimp only at hinside
  have hday : daysBeforeYear y + r =
      daysBeforeYear d.year + (daysBeforeMonth (isLeap d.year) d.month + (d.day - 1) : Nat) := by
    rw [hy]
    unfold toDays
    push_cast [hd]
    omega
  obtain rfl : y = d.year := year_unique hday hr (by omega)
  have hplace : r = total ((monthLengths (isLeap d.year)).take (d.month - 1)) + (d.day - 1) := by
    have hcast := Int.add_left_cancel hday
    exact_mod_cast hcast
  have hshort : d.day - 1 < (monthLengths (isLeap d.year)).getD (d.month - 1) 0 := by
    unfold monthLength at hd'
    omega
  rw [e, hplace, monthAndDay_total hshort]
  dsimp only
  rw [Nat.add_sub_cancel' hm, Nat.sub_add_cancel hd]

theorem toDays_newYear (y : Int) : (⟨y, 1, 1⟩ : Date).toDays = daysBeforeYear y - epochDay := by
  unfold toDays
  simp [daysBeforeMonth]

theorem year_ofDays_iff {days y : Int} : (ofDays days).year = y ↔
    (⟨y, 1, 1⟩ : Date).toDays ≤ days ∧ days < (⟨y + 1, 1, 1⟩ : Date).toDays := by
  obtain ⟨y', r, e, hy, hr⟩ := ofDays_spec days
  rw [e, toDays_newYear, toDays_newYear]
  dsimp only
  constructor
  · rintro rfl
    have hle := daysBeforeYear_add_le (Int.lt_succ y')
    omega
  · rintro ⟨h, h'⟩
    rcases Int.lt_trichotomy y' y with hlt | heq | hlt
    · have hle := daysBeforeYear_add_le hlt
      omega
    · exact heq
    · rcases Int.lt_or_eq_of_le (Int.add_one_le_of_lt hlt) with hlt | heq
      · have hle := daysBeforeYear_add_le hlt
        omega
      · rw [heq] at h'
        omega

theorem year_ofDays_mem {days : Int} (h : (⟨1, 1, 1⟩ : Date).toDays ≤ days)
    (h' : days < (⟨10000, 1, 1⟩ : Date).toDays) :
    1 ≤ (ofDays days).year ∧ (ofDays days).year ≤ 9999 := by
  have hfirst : (⟨1, 1, 1⟩ : Date).toDays = -719162 := by decide
  have hend : (⟨10000, 1, 1⟩ : Date).toDays = 2932897 := by decide
  rw [hfirst] at h
  rw [hend] at h'
  unfold ofDays epochDay
  dsimp only
  omega

end Mailroom.Date
