import Mailroom.Time.Zone

/-!
# Stamps: moments with the clock that showed them

A `Stamp` is an instant together with the offset of the clock it was read from.  Clocks read dates
of the years 1 to 9999 only, and run less than a day ahead of Greenwich or behind it, so every
conversion can fail with a `ClockError`.

* `Zone.toLocal`     a stamp read from the clock of a zone;
* `Zone.instantOf`   the instant at which the clock of a zone shows a reading: of two such instants
  the earlier one (the later with `later`), and in a gap the reading taken with the offset before it;
* `Zone.readLocal`   the stamp of a reading;
* `Zone.localize`    the stamp of a `Moment`, which may be a reading without an offset.
-/

namespace Mailroom

/-- why a moment cannot be shown by a clock -/
inductive ClockError where
  /-- a probe of the zone fell outside the years 1 to 9999 -/
  | yearOutOfRange (year : Int)
  /-- a conversion left the years 1 to 9999 -/
  | dateOutOfRange
  /-- a date or time that does not exist -/
  | noSuchTime (what : Text)
  /-- a clock that is a day or more ahead of Greenwich or behind it -/
  | offsetOutOfRange (offset : Int)
deriving DecidableEq, Repr

/-- a moment, in seconds and millionths since 1 January 1970 in Greenwich, and the offset (seconds
east) of the clock it was read from -/
structure Stamp where
  instant : Int
  micros : Nat
  offset : Int
deriving DecidableEq, Repr

/-- a stamp, or a reading (in seconds of its own clock) whose offset is not known and which counts as
local time -/
inductive Moment where
  | fixed (s : Stamp)
  | floating (wall : Int) (micros : Nat)
deriving DecidableEq, Repr

/-- what a clock shows -/
structure Reading where
  date : Date
  hour : Nat
  minute : Nat
  second : Nat
deriving DecidableEq, Repr

namespace Reading

/-- a reading in seconds since 1 January 1970 on its own clock -/
def toSeconds (r : Reading) : Int :=
  r.date.toDays * secondsPerDay + r.hour * 3600 + r.minute * 60 + r.second

/-- the reading that lies `n` seconds after 1 January 1970 on its own clock -/
def ofSeconds (n : Int) : Reading :=
  let s := (n % secondsPerDay).toNat
  ⟨Date.ofDays (n / secondsPerDay), s / 3600, s / 60 % 60, s % 60⟩

/-- a date that exists in the years 1 to 9999, and a time of day -/
def IsValid (r : Reading) : Prop :=
  r.date.Exists ∧ 1 ≤ r.date.year ∧ r.date.year ≤ 9999 ∧ r.hour < 24 ∧ r.minute < 60 ∧ r.second < 60

instance (r : Reading) : Decidable r.IsValid := by unfold IsValid; infer_instance

end Reading

namespace Stamp

/-- what the clock of the stamp shows -/
def reading (s : Stamp) : Reading := .ofSeconds (s.instant + s.offset)

/-- the day number on the clock of the stamp -/
def day (s : Stamp) : Int := (s.instant + s.offset) / secondsPerDay

end Stamp

/-! ## limits of the clock -/

/-- the first second of the year 1 -/
def firstSecond : Int := Date.toDays ⟨1, 1, 1⟩ * secondsPerDay

/-- the second after the year 9999 -/
def endSecond : Int := Date.toDays ⟨10000, 1, 1⟩ * secondsPerDay

/-- a reading in seconds, if its year is 1 to 9999 -/
def checkYear (wall : Int) : Except ClockError Int :=
  if firstSecond ≤ wall ∧ wall < endSecond then .ok wall
  else .error (.yearOutOfRange (Zone.yearOf wall))

/-- a reading in seconds, if a conversion may end there -/
def checkDate (wall : Int) : Except ClockError Int :=
  if firstSecond ≤ wall ∧ wall < endSecond then .ok wall else .error .dateOutOfRange

/-! ## conversions -/

namespace Zone

/-- the reading at an instant, if a clock can show it -/
def probe (z : Zone) (instant : Int) : Except ClockError Int := checkYear (z.wallAt instant)

/-- the offset in force at an instant, if a clock can have it -/
def clockOffset (z : Zone) (instant : Int) : Except ClockError Int :=
  let offset := z.offsetAt instant
  if -secondsPerDay < offset ∧ offset < secondsPerDay then .ok offset
  else .error (.offsetOutOfRange offset)

/-- a stamp read from the clock of the zone -/
def toLocal (z : Zone) (s : Stamp) : Except ClockError Stamp := do
  let _ ← checkDate s.instant
  let offset ← z.clockOffset s.instant
  let _ ← checkDate (s.instant + offset)
  return ⟨s.instant, s.micros, offset⟩

/-- the instant at which the clock shows `wall`: the offsets tried are the one found at `wall`
itself and the one a day before the first solution (after it with `later`) -/
def instantOf (z : Zone) (wall : Int) (later : Bool) : Except ClockError Int := do
  let a := (← z.probe wall) - wall
  let u1 := wall - a
  let t1 ← z.probe u1
  let other ←
    if t1 = wall then
      let u := if later then u1 + secondsPerDay else u1 - secondsPerDay
      pure ((← z.probe u) - u)
    else pure (t1 - u1)
  if t1 = wall ∧ a = other then return u1
  let u2 := wall - other
  let t2 ← z.probe u2
  if t2 = wall then return u2
  if t1 = wall then return u1
  return if later then min u1 u2 else max u1 u2

/-- the stamp of a reading of the local clock: the offset in force at `instantOf` is taken off the
reading, and the instant so found is read from the clock again -/
def readLocal (z : Zone) (wall : Int) (micros : Nat) (later : Bool) : Except ClockError Stamp := do
  let t ← z.instantOf wall later
  let offset ← z.clockOffset t
  z.toLocal ⟨wall - offset, micros, 0⟩

/-- the stamp of an instant, by way of its reading: the reading is marked as the later one of two if
the clock showed the same less than a day before -/
def ofInstant (z : Zone) (instant : Int) : Except ClockError Stamp := do
  let wall ← z.probe instant
  let before ← z.probe (instant - secondsPerDay)
  let shift := wall - before - secondsPerDay
  let later ← if shift < 0 then do pure ((← z.probe (instant + shift)) == wall) else pure false
  z.readLocal wall 0 later

/-- a moment read from the local clock -/
def localize (z : Zone) : Moment → Except ClockError Stamp
  | .fixed s => z.toLocal s
  | .floating wall micros => z.readLocal wall micros false

end Zone

/-- an offset of a day or more in days and seconds, as messages show it -/
def shownOffset (offset : Int) : Text :=
  let seconds : Text :=
    if offset % secondsPerDay = 0 then []
    else ", seconds=" ++ Text.decimalInt (offset % secondsPerDay)
  "datetime.timedelta(days=" ++ Text.decimalInt (offset / secondsPerDay) ++ seconds ++ ")"

/-- the wording of a clock error -/
def ClockError.message : ClockError → Text
  | yearOutOfRange y => "year " ++ Text.decimalInt y ++ " is out of range"
  | dateOutOfRange => "date value out of range"
  | noSuchTime what => what
  | offsetOutOfRange o =>
    "offset must be a timedelta strictly between -timedelta(hours=24) and timedelta(hours=24), not "
      ++ shownOffset o ++ "."

end Mailroom
