import Mailroom.Text.Case
import Mailroom.Text.Integer
import Mailroom.Time.Format

/-!
# Dates of message headers

`Letter.read` reads the date of a message, `Mon, 15 Jan 2024 10:30:00 +0200`, and the looser
forms that mail has had: no weekday, hyphens in the date, no seconds, dots in the time, names of zones,
years of two digits, parts in another order.  A date without an offset, or with the offset `-0000`, is
a reading whose clock is not known.
-/

namespace Mailroom

/-- how a number is beyond all clocks -/
inductive Overflow where
  /-- it does not fit a word -/
  | word
  /-- it fits a word, and is above the largest number of a clock -/
  | above
  /-- it fits a word, and is below the smallest number of a clock -/
  | below
  /-- it stands for more days than a clock has numbers -/
  | span
  /-- it stands for so many days, which are too many -/
  | days (count : Int)
deriving DecidableEq, Repr

/-- the wording of an overflow -/
def Overflow.message : Overflow → Text
  | word => "Python int too large to convert to C long"
  | above => "signed integer is greater than maximum"
  | below => "signed integer is less than minimum"
  | span => "Python int too large to convert to C int"
  | days n => "days=" ++ Text.decimalInt n ++ "; must have magnitude <= 999999999"

/-- why a text is no date of a message -/
inductive LetterError where
  | malformed
  /-- a number is beyond all clocks -/
  | tooLarge (e : Overflow)
deriving DecidableEq, Repr

namespace Letter

/-- the zones that have names, and their offsets in hours and minutes -/
def namedZones : List (Text × Int) :=
  [("UT", 0), ("UTC", 0), ("GMT", 0), ("Z", 0), ("AST", -400), ("ADT", -300), ("EST", -500),
    ("EDT", -400), ("CST", -600), ("CDT", -500), ("MST", -700), ("MDT", -600), ("PST", -800),
    ("PDT", -700)]

/-- the full names of the months in lower case -/
def fullMonthNames : List Text :=
  ["january", "february", "march", "april", "may", "june", "july", "august", "september",
    "october", "november", "december"]

/-- the number of a month from its name in lower case -/
def month? (s : Text) : Option Nat :=
  match (Date.monthNames.map Text.asciiLower).findIdx? (· == s) with
  | some i => some (i + 1)
  | none => (fullMonthNames.findIdx? (· == s)).map (· + 1)

/-- an integer, if the text is one -/
def integer? (s : Text) : Option Int :=
  match Text.readInteger 4300 s with
  | .ok n => some n
  | .error _ => none

/-- a text without a comma at its end -/
def dropComma (s : Text) : Text := if s.getLast? = some ',' then s.dropLast else s

/-- the words without the weekday -/
def dropWeekday : List Text → List Text
  | [] => []
  | w :: ws =>
    if w.getLast? = some ',' ∨ (Date.weekdayNames.map Text.asciiLower).contains (Text.lower w) then ws
    else ((Text.splitOn ',' w).getLast?.getD w) :: ws

/-- the words with the date in three of them -/
def splitDate : List Text → List Text
  | [d, t, z] =>
    match Text.splitOn '-' d with
    | [a, b, c] => [a, b, c, t, z]
    | _ => [d, t, z]
  | ws => ws

/-- the words with the offset apart from the time, empty if there is none -/
def splitOffset : List Text → List Text
  | [a, b, c, s] =>
    let sign := if s.contains '+' then '+' else '-'
    let time := s.takeWhile (· != sign)
    if s.contains sign && !time.isEmpty then [a, b, c, time, s.drop time.length]
    else [a, b, c, s, []]
  | ws => ws

/-- hours, minutes and seconds -/
def clockParts? (s : Text) : Option (Text × Text × Text) :=
  match Text.splitOn ':' s with
  | [h, m] => some (h, m, ['0'])
  | [h, m, sec] => some (h, m, sec)
  | [t] =>
    match Text.splitOn '.' t with
    | [h, m] => some (h, m, ['0'])
    | [h, m, sec] => some (h, m, sec)
    | _ => none
  | _ => none

/-- the year that a number of a date stands for -/
def fullYear (y : Int) : Int :=
  if y < 100 then if 68 < y then y + 1900 else y + 2000 else y

/-- the offset in seconds that the last word of a date stands for -/
def offset? (z : Text) : Option Int :=
  let z := z.map Char.toUpper
  let n? : Option Int :=
    match namedZones.find? (·.1 == z) with
    | some p => some p.2
    | none =>
      match integer? z with
      | some n => if n = 0 ∧ z.head? = some '-' then none else some n
      | none => none
  n?.map fun n => n.sign * ((n.natAbs / 100 * 3600 + n.natAbs % 100 * 60 : Nat) : Int)

/-- the words of a date in their order: day, month, year, time and offset -/
def fields? (s : Text) : Option (Text × Text × Text × Text × Text) :=
  match (splitOffset (splitDate (dropWeekday (Text.words s)))).take 5 with
  | [d, m, y, t, z] => if d.isEmpty ∨ m.isEmpty ∨ y.isEmpty then none else some (d, m, y, t, z)
  | _ => none

/-- day and month with their words exchanged where that helps -/
def dayAndMonth? (d m : Text) : Option (Text × Nat) :=
  match month? (Text.lower m) with
  | some n => some (d, n)
  | none => (month? (Text.lower d)).map fun n => (Text.lower m, n)

/-- year, time and offset with their words exchanged where that helps -/
def yearTimeZone (y t z : Text) : Option (Text × Text × Text) :=
  let (y, t) := if y.contains ':' && y.head? != some ':' then (t, y) else (y, t)
  let y := dropComma y
  if y.isEmpty then none
  else if y.head?.any Text.isDigit then some (y, t, z)
  else some (z, t, y)

/-- year, month, day, hour, minute and second of a date, and its offset -/
def numbers? (s : Text) : Option (Int × Nat × Int × Int × Int × Int × Option Int) := do
  let (d, m, y, t, z) ← fields? s
  let (d, month) ← dayAndMonth? d m
  let (y, t, z) ← yearTimeZone y t z
  let (h, mi, sec) ← clockParts? (dropComma t)
  let year ← integer? y
  let day ← integer? (dropComma d)
  let hour ← integer? h
  let minute ← integer? mi
  let second ← integer? sec
  return (fullYear year, month, day, hour, minute, second, offset? z)

/-- a number that a clock can be asked to show -/
def checkNumber (n : Int) : Except LetterError Unit :=
  if n < -9223372036854775808 ∨ 9223372036854775807 < n then .error (.tooLarge .word)
  else if 2147483647 < n then .error (.tooLarge .above)
  else if n < -2147483648 then .error (.tooLarge .below)
  else .ok ()

/-- an offset that a clock can have: less than a day -/
def checkOffset (o : Int) : Except LetterError Unit :=
  let days := o / 86400
  if days < -2147483648 ∨ 2147483647 < days then .error (.tooLarge .span)
  else if 999999999 < days.natAbs then .error (.tooLarge (.days days))
  else if 86400 ≤ o.natAbs then .error .malformed
  else .ok ()

/-- the moment of a date of a message; its offset is looked at before its other numbers -/
def read (s : Text) : Except LetterError Moment :=
  match numbers? s with
  | none => .error .malformed
  | some (y, mo, d, h, mi, sec, off) => do
    off.elim (.ok ()) checkOffset
    [y, d, h, mi, sec].forM checkNumber
    let r : Reading := ⟨⟨y, mo, d.toNat⟩, h.toNat, mi.toNat, sec.toNat⟩
    if d < 0 ∨ h < 0 ∨ mi < 0 ∨ sec < 0 ∨ ¬r.IsValid then throw .malformed
    match off with
    | none => return .floating r.toSeconds 0
    | some o => return .fixed ⟨r.toSeconds - o, 0, o⟩

end Letter

/-- a moment as message headers write it, with the offset `-0000` where its clock is not known -/
def Moment.letter : Moment → Text
  | .fixed s => s.letter
  | .floating wall _ => (Reading.ofSeconds wall).letter "-0000"

end Mailroom
