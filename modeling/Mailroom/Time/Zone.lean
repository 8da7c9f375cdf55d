import Mailroom.Time.Calendar

/-!
# Time zones

A zone is given by a rule text in the form of POSIX: the name and offset of its standard time and,
where clocks change, the name and offset of summer time with the days of the year on which the two
changes happen (`EST5EDT,M3.2.0,M11.1.0`).  Offsets in the text count westward; here they are
seconds east.

* `Zone.read?`      the zone a rule text describes;
* `Zone.periodAt`   the period (offset and name) in force at an instant.

The changes of a year are found from its first day; years before 1970 count from the first day of
1970 instead, so that before 1970 a northern zone has no summer time.
-/

namespace Mailroom

/-- the day of a year on which clocks change -/
inductive ChangeDay where
  /-- day 1 to 365, where 29 February is never counted -/
  | julian (n : Nat)
  /-- day 0 to 365, where 29 February is counted -/
  | ofYear (n : Nat)
  /-- the `week`-th given weekday (0 for Sunday) of a month, where week 5 is the last one -/
  | ofMonth (month week weekday : Nat)
deriving DecidableEq, Repr

/-- a change of clocks: its day, and the second of that day on the clock that is changed -/
structure ChangeRule where
  day : ChangeDay
  time : Int
deriving DecidableEq, Repr

/-- a stretch of time with one offset (seconds east) and one name -/
structure Period where
  offset : Int
  name : Text
deriving DecidableEq, Repr

/-- summer time: its period, the change into it and the change out of it -/
structure Summer where
  period : Period
  start : ChangeRule
  stop : ChangeRule
deriving DecidableEq, Repr

/-- the rules of local time -/
structure Zone where
  standard : Period
  summer : Option Summer
deriving DecidableEq, Repr

/-- the seconds of a day -/
def secondsPerDay : Int := 86400

/-! ## changes of a year -/

namespace ChangeDay

/-- the day of the year, counted from 0 -/
def index (year : Int) : ChangeDay → Int
  | julian n => (n : Int) - 1 + if 60 ≤ n ∧ Date.isLeap year then 1 else 0
  | ofYear n => n
  | ofMonth m week weekday =>
    let leap := Date.isLeap year
    let first : Nat := (Date.weekday (Date.toDays ⟨year, m, 1⟩) + 1) % 7
    let d := (weekday + 7 - first) % 7
    let fits := (Date.monthLength leap m - 1 - d) / 7
    Date.daysBeforeMonth leap m + d + 7 * (min (week - 1) fits : Nat)

end ChangeDay

/-- the instant at which clocks that show `offset` change in a year -/
def ChangeRule.instant (r : ChangeRule) (year offset : Int) : Int :=
  let base := if 1970 < year then Date.toDays ⟨year, 1, 1⟩ else 0
  (base + r.day.index year) * secondsPerDay - offset + r.time

namespace Zone

/-- Greenwich time -/
def utc : Zone := ⟨⟨0, "UTC"⟩, none⟩

/-- the year of an instant in Greenwich -/
def yearOf (instant : Int) : Int := (Date.ofDays (instant / secondsPerDay)).year

/-- whether summer time is in force -/
def isSummer (z : Zone) (s : Summer) (instant : Int) : Bool :=
  let year := yearOf instant
  let start := s.start.instant year z.standard.offset
  let stop := s.stop.instant year s.period.offset
  if stop < start then instant < stop || start ≤ instant
  else start ≤ instant && instant < stop

/-- the period in force at an instant -/
def periodAt (z : Zone) (instant : Int) : Period :=
  match z.summer with
  | none => z.standard
  | some s => if z.isSummer s instant then s.period else z.standard

/-- the offset in force at an instant -/
def offsetAt (z : Zone) (instant : Int) : Int := (z.periodAt instant).offset

/-- the reading of the clock at an instant, in seconds -/
def wallAt (z : Zone) (instant : Int) : Int := instant + z.offsetAt instant

/-! ## rule texts -/

/-- leading decimal digits, as a number if there is one, and the rest -/
def takeNumber (s : Text) : Option Nat × Text :=
  let ds := s.takeWhile fun c => (Text.asciiDigit? c).isSome
  let n := (ds.filterMap Text.asciiDigit?).foldl (fun a d => 10 * a + d) 0
  (if ds.isEmpty then none else some n, s.dropWhile fun c => (Text.asciiDigit? c).isSome)

/-- the characters of a name that stands between `<` and `>` -/
def isNameChar (c : Char) : Bool :=
  Text.isAsciiLetter c || (Text.asciiDigit? c).isSome || c == '+' || c == '-'

/-- a name of letters, or one of letters, digits and signs between `<` and `>` -/
def takeName? : Text → Option (Text × Text)
  | '<' :: r =>
    let name := r.takeWhile isNameChar
    match r.dropWhile isNameChar with
    | '>' :: rest => if name.length < 3 then none else some (name, rest)
    | _ => none
  | s =>
    let name := s.takeWhile Text.isAsciiLetter
    if name.length < 3 then none else some (name, s.dropWhile Text.isAsciiLetter)

/-- `hh`, `hh:mm` or `hh:mm:ss` in seconds, and the rest -/
def takeClock? (s : Text) : Option (Int × Text) :=
  match takeNumber s with
  | (none, _) => none
  | (some h, ':' :: r) =>
    match takeNumber r with
    | (none, _) => none
    | (some m, ':' :: r') =>
      match takeNumber r' with
      | (none, _) => none
      | (some sec, rest) => some (total h m sec, rest)
    | (some m, rest) => some (total h m 0, rest)
  | (some h, rest) => some (total h 0 0, rest)
where
  total (h m s : Nat) : Int := (min h 24 : Nat) * 3600 + (min m 59 : Nat) * 60 + (min s 59 : Nat)

/-- an offset, written westward, in seconds east -/
def takeOffset? : Text → Option (Int × Text)
  | '-' :: r => takeClock? r
  | '+' :: r => (takeClock? r).map fun p => (-p.1, p.2)
  | r => (takeClock? r).map fun p => (-p.1, p.2)

/-- the day of a change -/
def takeDay? : Text → Option (ChangeDay × Text)
  | 'J' :: r =>
    match takeNumber r with
    | (some n, rest) => some (.julian n, rest)
    | (none, _) => none
  | 'M' :: r =>
    match takeNumber r with
    | (some m, '.' :: r1) =>
      match takeNumber r1 with
      | (some w, '.' :: r2) =>
        match takeNumber r2 with
        | (some d, rest) => some (.ofMonth m w d, rest)
        | (none, _) => none
      | _ => none
    | _ => none
  | r =>
    match takeNumber r with
    | (some n, rest) => some (.ofYear n, rest)
    | (none, _) => none

/-- a change behind its comma, at two o'clock unless a time is given; `usual` if the text is over -/
def takeChange? (usual : ChangeDay) : Text → Option (ChangeRule × Text)
  | [] => some (⟨usual, 7200⟩, [])
  | ',' :: r => do
    let (day, rest) ← takeDay? r
    match rest with
    | '/' :: '-' :: t => do
      let (time, rest) ← takeClock? t
      some (⟨day, -time⟩, rest)
    | '/' :: t => do
      let (time, rest) ← takeClock? t
      some (⟨day, time⟩, rest)
    | _ => some (⟨day, 7200⟩, rest)
  | _ => none

/-- the zone described by a rule text -/
def read? (s : Text) : Option Zone := do
  let (name, r) ← takeName? s
  let (offset, r) ← takeOffset? r
  match r with
  | [] => some ⟨⟨offset, name⟩, none⟩
  | _ => do
    let (summerName, r) ← takeName? r
    let (summerOffset, r) := (takeOffset? r).getD (offset + 3600, r)
    let (start, r) ← takeChange? (.ofMonth 3 2 0) r
    let (stop, _) ← takeChange? (.ofMonth 11 1 0) r
    some ⟨⟨offset, name⟩, some ⟨⟨summerOffset, summerName⟩, start, stop⟩⟩

end Zone
end Mailroom
