import Mailroom.Text.Basic

/-!
# The calendar

Dates of the Gregorian calendar, extended to all years, and their day numbers counted from
1 January 1970.

* `Date.toDays`   the day number of a date;
* `Date.ofDays`   the date of a day number: whole periods of 400, 100, 4 and 1 years are taken off
  in turn, then whole months.
-/

namespace Mailroom

/-- a day of the calendar -/
structure Date where
  year : Int
  month : Nat
  day : Nat
deriving DecidableEq, Repr

namespace Date

/-! ## years and months -/

/-- a year with 29 days in February -/
def isLeap (y : Int) : Bool := y % 4 = 0 && (y % 100 ≠ 0 || y % 400 = 0)

/-- the lengths of the months of a year -/
def monthLengths (leap : Bool) : List Nat :=
  [31, if leap then 29 else 28, 31, 30, 31, 30, 31, 31, 30, 31, 30, 31]

/-- the length of month `m` (1 to 12) of a year -/
def monthLength (leap : Bool) (m : Nat) : Nat := (monthLengths leap).getD (m - 1) 0

/-- the days of some months together -/
def total (lengths : List Nat) : Nat := lengths.foldr (· + ·) 0

@[simp] theorem total_nil : total [] = 0 := rfl

@[simp] theorem total_cons (n : Nat) (ns : List Nat) : total (n :: ns) = n + total ns := rfl

/-- the days of a year before its month `m` -/
def daysBeforeMonth (leap : Bool) (m : Nat) : Nat := total ((monthLengths leap).take (m - 1))

/-- the days from 1 January of the year 1 to 1 January of the year `y` -/
def daysBeforeYear (y : Int) : Int :=
  let p := y - 1
  p * 365 + p / 4 - p / 100 + p / 400

/-- the number of 1 January 1970, counted from the year 1 -/
def epochDay : Int := 719162

/-- a date that exists in the calendar -/
def Exists (d : Date) : Prop :=
  1 ≤ d.month ∧ d.month ≤ 12 ∧ 1 ≤ d.day ∧ d.day ≤ monthLength (isLeap d.year) d.month

instance (d : Date) : Decidable d.Exists := by unfold Exists; infer_instance

/-! ## day numbers -/

/-- the day number of a date, counted from 1 January 1970 -/
def toDays (d : Date) : Int :=
  daysBeforeYear d.year + daysBeforeMonth (isLeap d.year) d.month + d.day - 1 - epochDay

/-- the month and the day of the month of day `n` of a year, counted from 0 -/
def monthAndDay (n : Nat) : List Nat → Nat → Nat × Nat
  | [], m => (m, n + 1)
  | l :: ls, m => if n < l then (m, n + 1) else monthAndDay (n - l) ls (m + 1)

/-- the date of a day number -/
def ofDays (days : Int) : Date :=
  let n := days + epochDay
  let n400 := n / 146097
  let r400 := n % 146097
  let n100 := min (r400 / 36524) 3
  let r100 := r400 - n100 * 36524
  let n4 := r100 / 1461
  let r4 := r100 % 1461
  let n1 := min (r4 / 365) 3
  let r1 := r4 - n1 * 365
  let year := n400 * 400 + n100 * 100 + n4 * 4 + n1 + 1
  let md := monthAndDay r1.toNat (monthLengths (isLeap year)) 1
  ⟨year, md.1, md.2⟩

/-- the day of the week of a day number, 0 for Monday -/
def weekday (days : Int) : Nat := ((days + 3) % 7).toNat

/-! ## names -/

/-- the months by their first three letters -/
def monthNames : List Text :=
  ["Jan", "Feb", "Mar", "Apr", "May", "Jun", "Jul", "Aug", "Sep", "Oct", "Nov", "Dec"]

/-- the days of the week by their first three letters, from Monday -/
def weekdayNames : List Text := ["Mon", "Tue", "Wed", "Thu", "Fri", "Sat", "Sun"]

/-- the name of month `m` (1 to 12) -/
def monthName (m : Nat) : Text := monthNames.getD (m - 1) []

/-- the name of the day of the week of a day number -/
def weekdayName (days : Int) : Text := weekdayNames.getD (weekday days) []

end Date
end Mailroom
