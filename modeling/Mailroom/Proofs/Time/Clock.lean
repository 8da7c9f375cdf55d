import Mailroom.Proofs.Outcome
import Mailroom.Proofs.Time.Calendar

/-!
# What clocks can show

Clocks show the years 1 to 9999 and run less than a day ahead of Greenwich or behind it; a conversion
that would leave these bounds fails.

* `OnClock`              the readings of these years, in seconds;
* `WithinDay`            the offsets that clocks can have;
* `toLocal_eq_ok`        when a stamp can be read from the clock of a zone, and what is read;
* `toLocal_toLocal`      a stamp read from the clock is read from it again unchanged;
* `reading_toLocal`, `reading_localize`   its date exists, lies in these years and has the day number of
  the stamp;
* `Leaves`               the moments that cannot be read, for the years of clocks are left on the way;
* `instantFor`, `readLocal_of_margin`   a reading some days from both ends can be read in a zone whose
  offsets are less than a day;
* `Reading.ofSeconds_toSeconds`, `Reading.toSeconds_ofSeconds`   a reading is told by its seconds, and they
  by the reading;
* `Reading.margin`       the readings of the years 2 to 9998 are almost a year from both ends.
-/

namespace Mailroom

/-- a reading, in seconds, of the years 1 to 9999 -/
def OnClock (wall : Int) : Prop := firstSecond ≤ wall ∧ wall < endSecond

instance (wall : Int) : Decidable (OnClock wall) := by unfold OnClock; infer_instance

/-- an offset, in seconds, of less than a day -/
def WithinDay (offset : Int) : Prop := -secondsPerDay < offset ∧ offset < secondsPerDay

instance (offset : Int) : Decidable (WithinDay offset) := by unfold WithinDay; infer_instance

theorem checkYear_eq_ok {wall w : Int} : checkYear wall = .ok w ↔ OnClock wall ∧ w = wall := by
  by_cases h : OnClock wall
  · have hc : checkYear wall = .ok wall := if_pos h
    simp [hc, h, eq_comm]
  · have hc : checkYear wall = .error _ := if_neg h
    simp [hc, h]

theorem checkYear_eq_error {wall : Int} {e : ClockError} :
    checkYear wall = .error e ↔ ¬OnClock wall ∧ e = .yearOutOfRange (Zone.yearOf wall) := by
  by_cases h : OnClock wall
  · have hc : checkYear wall = .ok wall := if_pos h
    simp [hc, h]
  · have hc : checkYear wall = .error _ := if_neg h
    simp [hc, h, eq_comm]

theorem checkDate_eq_ok {wall w : Int} : checkDate wall = .ok w ↔ OnClock wall ∧ w = wall := by
  by_cases h : OnClock wall
  · have hc : checkDate wall = .ok wall := if_pos h
    simp [hc, h, eq_comm]
  · have hc : checkDate wall = .error _ := if_neg h
    simp [hc, h]

theorem checkDate_eq_error {wall : Int} {e : ClockError} :
    checkDate wall = .error e ↔ ¬OnClock wall ∧ e = .dateOutOfRange := by
  by_cases h : OnClock wall
  · have hc : checkDate wall = .ok wall := if_pos h
    simp [hc, h]
  · have hc : checkDate wall = .error _ := if_neg h
    simp [hc, h, eq_comm]

/-- a moment in seconds, on its own clock where it has no offset -/
def Moment.seconds : Moment → Int
  | .fixed s => s.instant
  | .floating wall _ => wall

namespace Zone

variable {z : Zone}

theorem probe_of_onClock {instant : Int} (h : OnClock (z.wallAt instant)) :
    z.probe instant = .ok (z.wallAt instant) := checkYear_eq_ok.2 ⟨h, rfl⟩

theorem clockOffset_eq_ok {instant o : Int} :
    z.clockOffset instant = .ok o ↔ WithinDay (z.offsetAt instant) ∧ o = z.offsetAt instant := by
  by_cases h : WithinDay (z.offsetAt instant)
  · have hc : z.clockOffset instant = .ok (z.offsetAt instant) := if_pos h
    simp [hc, h, eq_comm]
  · have hc : z.clockOffset instant = .error _ := if_neg h
    simp [hc, h]

theorem clockOffset_eq_error {instant : Int} {e : ClockError} :
    z.clockOffset instant = .error e ↔
      ¬WithinDay (z.offsetAt instant) ∧ e = .offsetOutOfRange (z.offsetAt instant) := by
  by_cases h : WithinDay (z.offsetAt instant)
  · have hc : z.clockOffset instant = .ok (z.offsetAt instant) := if_pos h
    simp [hc, h]
  · have hc : z.clockOffset instant = .error _ := if_neg h
    simp [hc, h, eq_comm]

theorem toLocal_eq_ok {s s' : Stamp} :
    z.toLocal s = .ok s' ↔ OnClock s.instant ∧ WithinDay (z.offsetAt s.instant) ∧
      OnClock (s.instant + z.offsetAt s.instant) ∧
      s' = ⟨s.instant, s.micros, z.offsetAt s.instant⟩ := by
  unfold toLocal
  simp only [bind_eq_ok, checkDate_eq_ok, clockOffset_eq_ok, pure_eq_ok]
  constructor
  · rintro ⟨_, ⟨h, -⟩, _, ⟨hday, rfl⟩, _, ⟨h', -⟩, rfl⟩
    exact ⟨h, hday, h', rfl⟩
  · rintro ⟨h, hday, h', rfl⟩
    exact ⟨_, ⟨h, rfl⟩, _, ⟨hday, rfl⟩, _, ⟨h', rfl⟩, rfl⟩

theorem toLocal_toLocal {s s' : Stamp} (h : z.toLocal s = .ok s') : z.toLocal s' = .ok s' := by
  obtain ⟨h1, hday, h2, rfl⟩ := toLocal_eq_ok.1 h
  exact toLocal_eq_ok.2 ⟨h1, hday, h2, rfl⟩

/-- the stamp of a reading, once its instant is found -/
theorem readLocal_eq_ok {wall : Int} {micros : Nat} {later : Bool} {s : Stamp} :
    z.readLocal wall micros later = .ok s ↔ ∃ t, z.instantOf wall later = .ok t ∧
      WithinDay (z.offsetAt t) ∧ z.toLocal ⟨wall - z.offsetAt t, micros, 0⟩ = .ok s := by
  unfold readLocal
  simp only [bind_eq_ok, clockOffset_eq_ok]
  constructor
  · rintro ⟨t, ht, _, ⟨hday, rfl⟩, hs⟩
    exact ⟨t, ht, hday, hs⟩
  · rintro ⟨t, ht, hday, hs⟩
    exact ⟨t, ht, _, ⟨hday, rfl⟩, hs⟩

theorem toLocal_readLocal {wall : Int} {micros : Nat} {later : Bool} {s : Stamp}
    (h : z.readLocal wall micros later = .ok s) : z.toLocal s = .ok s := by
  obtain ⟨t, -, -, ht⟩ := readLocal_eq_ok.1 h
  exact toLocal_toLocal ht

theorem reading_toLocal {s s' : Stamp} (h : z.toLocal s = .ok s') :
    s'.reading.date.Exists ∧ 1 ≤ s'.reading.date.year ∧ s'.reading.date.year ≤ 9999 ∧
      s'.reading.date.toDays = s'.day := by
  obtain ⟨-, -, h2, rfl⟩ := toLocal_eq_ok.1 h
  have hrange : (⟨1, 1, 1⟩ : Date).toDays ≤ (s.instant + z.offsetAt s.instant) / secondsPerDay ∧
      (s.instant + z.offsetAt s.instant) / secondsPerDay < (⟨10000, 1, 1⟩ : Date).toDays := by
    unfold OnClock firstSecond endSecond at h2
    unfold secondsPerDay at h2 ⊢
    omega
  obtain ⟨hy, hy'⟩ := Date.year_ofDays_mem hrange.1 hrange.2
  exact ⟨Date.ofDays_exists _, hy, hy', Date.toDays_ofDays _⟩

theorem reading_localize {m : Moment} {s : Stamp} (h : z.localize m = .ok s) :
    s.reading.date.Exists ∧ 1 ≤ s.reading.date.year ∧ s.reading.date.year ≤ 9999 ∧
      s.reading.date.toDays = s.day := by
  cases m with
  | fixed t => exact reading_toLocal h
  | floating wall micros => exact reading_toLocal (toLocal_readLocal h)

/-! ## leaving the years of clocks -/

/-- a stamp is not to be read from the clock of the zone, for the years of clocks are left -/
def LeavesAt (z : Zone) (instant : Int) : Prop :=
  ¬OnClock instant ∨ WithinDay (z.offsetAt instant) ∧ ¬OnClock (z.wallAt instant)

/-- a moment is not to be read from the clock of the zone, for the years of clocks are left -/
def Leaves (z : Zone) : Moment → Prop
  | .fixed s => z.LeavesAt s.instant
  | .floating wall _ => ∃ t, z.instantOf wall false = .ok t ∧ WithinDay (z.offsetAt t) ∧
      z.LeavesAt (wall - z.offsetAt t)

theorem toLocal_dateOutOfRange {s : Stamp} :
    z.toLocal s = .error .dateOutOfRange ↔ z.LeavesAt s.instant := by
  unfold toLocal
  simp only [bind_eq_error, checkDate_eq_error, checkDate_eq_ok, clockOffset_eq_ok, clockOffset_eq_error,
    pure_ne_error]
  constructor
  · rintro (⟨h, -⟩ | ⟨_, -, ⟨-, h⟩ | ⟨_, ⟨hday, rfl⟩, ⟨h, -⟩ | ⟨_, -, h⟩⟩⟩)
    · exact .inl h
    · cases h
    · exact .inr ⟨hday, h⟩
    · exact h.elim
  · rintro (h | ⟨hday, h⟩)
    · exact .inl ⟨h, trivial⟩
    · by_cases hinstant : OnClock s.instant
      · exact .inr ⟨_, ⟨hinstant, rfl⟩, .inr ⟨_, ⟨hday, rfl⟩, .inl ⟨h, trivial⟩⟩⟩
      · exact .inl ⟨hinstant, trivial⟩

/-- a probe of the zone that fails does so with a fault of its own -/
theorem instantOf_ne_dateOutOfRange {wall : Int} {later : Bool} :
    z.instantOf wall later ≠ .error .dateOutOfRange := by
  have hprobe : ∀ t, z.probe t ≠ .error .dateOutOfRange := fun t h => nomatch (checkYear_eq_error.1 h).2
  unfold instantOf
  refine bind_ne_error (hprobe _) fun a => bind_ne_error (hprobe _) fun t1 => ?_
  split
  · refine bind_ne_error (hprobe _) fun t => bind_ne_error pure_ne_error fun other => ?_
    dsimp only
    split
    · exact pure_ne_error
    · refine bind_ne_error (hprobe _) fun t2 => ?_
      split <;> exact pure_ne_error
  · refine bind_ne_error pure_ne_error fun other => ?_
    dsimp only
    split
    · exact pure_ne_error
    · refine bind_ne_error (hprobe _) fun t2 => ?_
      split <;> exact pure_ne_error

theorem localize_dateOutOfRange {m : Moment} : z.localize m = .error .dateOutOfRange ↔ z.Leaves m := by
  cases m with
  | fixed s => exact toLocal_dateOutOfRange
  | floating wall micros =>
    unfold localize readLocal Leaves
    simp only [bind_eq_error, instantOf_ne_dateOutOfRange, false_or, clockOffset_eq_error, clockOffset_eq_ok,
      toLocal_dateOutOfRange]
    constructor
    · rintro ⟨t, ht, ⟨-, h⟩ | ⟨_, ⟨hday, rfl⟩, h⟩⟩
      · cases h
      · exact ⟨t, ht, hday, h⟩
    · rintro ⟨t, ht, hday, h⟩
      exact ⟨t, ht, .inr ⟨_, ⟨hday, rfl⟩, h⟩⟩

theorem not_leavesAt_of_margin {t : Int} (h : firstSecond + secondsPerDay ≤ t)
    (h' : t < endSecond - secondsPerDay) : ¬z.LeavesAt t := by
  have hday : (0 : Int) < secondsPerDay := by decide
  rintro (hout | ⟨⟨ho, ho'⟩, hout⟩)
  · exact hout ⟨by omega, by omega⟩
  · refine hout ⟨?_, ?_⟩
    · unfold wallAt
      omega
    · unfold wallAt
      omega

theorem not_leaves_of_margin {m : Moment} (h : firstSecond + 2 * secondsPerDay ≤ m.seconds)
    (h' : m.seconds < endSecond - 2 * secondsPerDay) : ¬z.Leaves m := by
  have hday : (0 : Int) < secondsPerDay := by decide
  cases m with
  | fixed s => 
    dsimp only [Moment.seconds] at h h'
    exact not_leavesAt_of_margin (by omega) (by omega)
  | floating wall micros =>
    dsimp only [Moment.seconds] at h h'
    rintro ⟨t, -, ⟨ho, ho'⟩, hleaves⟩
    exact not_leavesAt_of_margin (by omega) (by omega) hleaves

/-! ## readings far from both ends -/

/-- all offsets of the zone are less than a day -/
def OffsetsWithinDay (z : Zone) : Prop := ∀ instant, WithinDay (z.offsetAt instant)

theorem wallAt_sub_self (t : Int) : z.wallAt t - t = z.offsetAt t := by
  unfold wallAt
  omega

/-- the instant at which the clock shows `wall`, where all offsets that are tried can be looked up -/
def instantFor (z : Zone) (wall : Int) (later : Bool) : Int :=
  let a := z.offsetAt wall
  let u1 := wall - a
  let b :=
    if z.wallAt u1 = wall then
      z.offsetAt (if later then u1 + secondsPerDay else u1 - secondsPerDay)
    else z.offsetAt u1
  let u2 := wall - b
  if z.wallAt u1 = wall ∧ a = b then u1
  else if z.wallAt u2 = wall then u2
  else if z.wallAt u1 = wall then u1
  else if later then min u1 u2 else max u1 u2

section
variable (hz : z.OffsetsWithinDay)
include hz

theorem probe_of_margin {t : Int} (h : firstSecond + secondsPerDay ≤ t)
    (h' : t < endSecond - secondsPerDay) : z.probe t = .ok (z.wallAt t) := by
  obtain ⟨ho, ho'⟩ := hz t
  apply probe_of_onClock
  unfold OnClock wallAt
  omega

theorem instantOf_of_margin {wall : Int} (h : firstSecond + 3 * secondsPerDay ≤ wall)
    (h' : wall < endSecond - 3 * secondsPerDay) (later : Bool) :
    z.instantOf wall later = .ok (z.instantFor wall later) := by
  have hday : (0 : Int) < secondsPerDay := by decide
  obtain ⟨ha, ha'⟩ := hz wall
  have hprobe : ∀ t, wall - 2 * secondsPerDay ≤ t → t ≤ wall + 2 * secondsPerDay →
      z.probe t = .ok (z.wallAt t) :=
    fun t ht ht' => probe_of_margin hz (by omega) (by omega)
  have hsecond : ∀ t, z.probe (wall - z.offsetAt t) = .ok (z.wallAt (wall - z.offsetAt t)) := by
    intro t
    obtain ⟨hb, hb'⟩ := hz t
    exact hprobe _ (by omega) (by omega)
  have hnext : z.probe (if later then wall - z.offsetAt wall + secondsPerDay
        else wall - z.offsetAt wall - secondsPerDay) =
      .ok (z.wallAt (if later then wall - z.offsetAt wall + secondsPerDay
        else wall - z.offsetAt wall - secondsPerDay)) := by
    cases later
    · exact hprobe _ (by simp only [Bool.false_eq_true, if_false]; omega)
        (by simp only [Bool.false_eq_true, if_false]; omega)
    · exact hprobe _ (by simp only [if_true]; omega) (by simp only [if_true]; omega)
  unfold instantOf instantFor
  simp only [bind, Except.bind, pure, Except.pure, hprobe wall (by omega) (by omega), wallAt_sub_self,
    hsecond]
  by_cases hfirst : z.wallAt (wall - z.offsetAt wall) = wall
  · simp only [hfirst, if_true, true_and, hnext, wallAt_sub_self, hsecond]
    split_ifs <;> rfl
  · simp only [hfirst, if_false, false_and]
    split_ifs <;> rfl

/-- a reading more than four days inside the years of clocks is read with the offset that is in force at
the instant found -/
theorem readLocal_of_margin {wall : Int} (h : firstSecond + 4 * secondsPerDay ≤ wall)
    (h' : wall < endSecond - 4 * secondsPerDay) (micros : Nat) (later : Bool) :
    z.readLocal wall micros later =
      .ok ⟨wall - z.offsetAt (z.instantFor wall later), micros,
        z.offsetAt (wall - z.offsetAt (z.instantFor wall later))⟩ := by
  have hday : (0 : Int) < secondsPerDay := by decide
  have hinstant : z.instantOf wall later = .ok (z.instantFor wall later) :=
    instantOf_of_margin hz (by omega) (by omega) later
  obtain ⟨ho, ho'⟩ := hz (z.instantFor wall later)
  obtain ⟨hu, hu'⟩ := hz (wall - z.offsetAt (z.instantFor wall later))
  refine readLocal_eq_ok.2 ⟨_, hinstant, hz _, toLocal_eq_ok.2 ⟨?_, hz _, ?_, rfl⟩⟩
  · unfold OnClock
    dsimp only
    omega
  · unfold OnClock
    dsimp only
    omega

end

end Zone

/-- what a clock shows is told by its seconds -/
theorem Reading.ofSeconds_toSeconds {r : Reading} (h : r.IsValid) : Reading.ofSeconds r.toSeconds = r := by
  obtain ⟨hdate, -, -, hhour, hminute, hsecond⟩ := h
  have hday : r.toSeconds / secondsPerDay = r.date.toDays := by
    unfold toSeconds secondsPerDay
    omega
  have hrest : (r.toSeconds % secondsPerDay).toNat = r.hour * 3600 + r.minute * 60 + r.second := by
    unfold toSeconds secondsPerDay
    omega
  unfold ofSeconds
  dsimp only
  rw [hday, hrest, Date.ofDays_toDays hdate]
  show (⟨r.date, _, _, _⟩ : Reading) = ⟨r.date, r.hour, r.minute, r.second⟩
  congr 1 <;> omega

/-- seconds are told by what a clock shows -/
theorem Reading.toSeconds_ofSeconds (n : Int) : (Reading.ofSeconds n).toSeconds = n := by
  unfold toSeconds ofSeconds
  dsimp only
  rw [Date.toDays_ofDays]
  unfold secondsPerDay
  omega

theorem Reading.isValid_ofSeconds {n : Int} (h : 1 ≤ (Reading.ofSeconds n).date.year)
    (h' : (Reading.ofSeconds n).date.year ≤ 9999) : (Reading.ofSeconds n).IsValid := by
  refine ⟨Date.ofDays_exists _, h, h', ?_, ?_, ?_⟩ <;>
    · unfold ofSeconds secondsPerDay
      dsimp only
      omega

/-- readings of all years but the first and the last are almost a year from both ends -/
theorem Reading.margin {r : Reading} (hr : r.IsValid) (h : 2 ≤ r.date.year)
    (h' : r.date.year ≤ 9998) : firstSecond + 364 * secondsPerDay ≤ r.toSeconds ∧
      r.toSeconds < endSecond - 364 * secondsPerDay := by
  obtain ⟨⟨hm, hm', hd, hd'⟩, -, -, hhour, hminute, hsecond⟩ := hr
  have hfirst : firstSecond = -719162 * 86400 := by decide
  have hend : endSecond = 2932897 * 86400 := by decide
  have hyear : 365 ≤ Date.daysBeforeYear r.date.year ∧
      Date.daysBeforeYear r.date.year ≤ 3651329 := by
    unfold Date.daysBeforeYear
    dsimp only
    omega
  have hmonth : ∀ leap, ∀ m : Fin 13,
      Date.daysBeforeMonth leap m + Date.monthLength leap m ≤ 366 := by decide
  have hday := hmonth (Date.isLeap r.date.year) ⟨r.date.month, by omega⟩
  rw [hfirst, hend]
  unfold Reading.toSeconds Date.toDays Date.epochDay secondsPerDay
  dsimp only at hday
  omega

end Mailroom
