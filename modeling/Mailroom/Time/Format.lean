import Mailroom.Time.Stamp

/-!
# Written forms of a stamp

* `Stamp.iso`       `2024-01-15T10:30:00+02:00`;
* `Stamp.letter`    `Mon, 15 Jan 2024 10:30:00 +0200`, the form of message headers;
* `Zone.spoken`     `Mon Jan 15 10:30:00 EET 2024`, with the name of the zone's period;
* `Date.short`      `15-Jan-2024`, the form of search programs.

`Moment.readIso?` reads the first form, with or without an offset.
-/

namespace Mailroom

open Text (twoDigits fourDigits decimal decimalInt padLeft)

/-! ## writing -/

/-- `hh:mm:ss` -/
def Reading.clock (r : Reading) : Text :=
  twoDigits r.hour ++ ":" ++ twoDigits r.minute ++ ":" ++ twoDigits r.second

/-- `+hh:mm`, with seconds only where they are not zero -/
def isoOffset (offset : Int) : Text :=
  let n := offset.natAbs
  let sign : Text := if offset < 0 then "-" else "+"
  sign ++ twoDigits (n / 3600) ++ ":" ++ twoDigits (n / 60 % 60)
    ++ if n % 60 = 0 then [] else ':' :: twoDigits (n % 60)

/-- `+hhmm`, with seconds only where they are not zero -/
def plainOffset (offset : Int) : Text :=
  let n := offset.natAbs
  let sign : Text := if offset < 0 then "-" else "+"
  sign ++ twoDigits (n / 3600) ++ twoDigits (n / 60 % 60)
    ++ if n % 60 = 0 then [] else twoDigits (n % 60)

/-- a reading with its millionths in the form of the international standard -/
def Reading.iso (r : Reading) (micros : Nat) : Text :=
  fourDigits r.date.year.toNat ++ "-" ++ twoDigits r.date.month ++ "-" ++ twoDigits r.date.day
    ++ "T" ++ r.clock ++ if micros = 0 then [] else '.' :: padLeft 6 '0' (decimal micros)

/-- the stamp in the form of the international standard -/
def Stamp.iso (s : Stamp) : Text := s.reading.iso s.micros ++ isoOffset s.offset

/-- a moment in the form of the international standard, without an offset where it has none -/
def Moment.iso : Moment → Text
  | fixed s => s.iso
  | floating wall micros => (Reading.ofSeconds wall).iso micros

/-- a reading in the form of message headers, followed by the text of its offset -/
def Reading.letter (r : Reading) (zone : Text) : Text :=
  Date.weekdayName r.date.toDays ++ ", " ++ twoDigits r.date.day ++ " "
    ++ Date.monthName r.date.month ++ " " ++ fourDigits r.date.year.toNat ++ " " ++ r.clock
    ++ " " ++ zone

/-- the stamp in the form of message headers -/
def Stamp.letter (s : Stamp) : Text := s.reading.letter (plainOffset s.offset)

/-- a date as search programs write it -/
def Date.short (d : Date) : Text :=
  decimal d.day ++ "-" ++ Date.monthName d.month ++ "-" ++ decimalInt d.year

/-- a moment as the clock of a zone shows it, in words -/
def Zone.spoken (z : Zone) (m : Moment) : Except ClockError Text := do
  let l ← z.localize m
  let r := l.reading
  return Date.weekdayName r.date.toDays ++ " " ++ Date.monthName r.date.month ++ " "
    ++ twoDigits r.date.day ++ " " ++ r.clock ++ " " ++ (z.periodAt l.instant).name ++ " "
    ++ decimalInt r.date.year

/-! ## reading -/

/-- `n` ASCII digits in front of a text -/
def takeDigits? (n : Nat) (s : Text) : Option (Nat × Text) :=
  let ds := (s.take n).filterMap Text.asciiDigit?
  if ds.length = n then some (ds.foldl (fun a d => 10 * a + d) 0, s.drop n) else none

/-- the character `c` in front of a text -/
def takeChar? (c : Char) : Text → Option Text
  | d :: r => if c = d then some r else none
  | [] => none

/-- an offset in seconds, none at the end of the text -/
def readIsoOffset? : Text → Option (Option Int)
  | [] => some none
  | ['Z'] => some (some 0)
  | c :: r => do
    let sign : Int ← if c = '+' then some 1 else if c = '-' then some (-1) else none
    let (h, r) ← takeDigits? 2 r
    let r ← takeChar? ':' r
    let (m, r) ← takeDigits? 2 r
    match r with
    | [] => some (some (sign * (h * 3600 + m * 60)))
    | ':' :: r =>
      let (s, _) ← takeDigits? 2 r
      some (some (sign * (h * 3600 + m * 60 + s)))
    | _ => none

/-- the moment written in the form of the international standard -/
def Moment.readIso? (s : Text) : Option Moment := do
  let (y, r) ← takeDigits? 4 s
  let r ← takeChar? '-' r
  let (mo, r) ← takeDigits? 2 r
  let r ← takeChar? '-' r
  let (d, r) ← takeDigits? 2 r
  let r ← takeChar? 'T' r
  let (h, r) ← takeDigits? 2 r
  let r ← takeChar? ':' r
  let (mi, r) ← takeDigits? 2 r
  let r ← takeChar? ':' r
  let (sec, r) ← takeDigits? 2 r
  let (micros, r) :=
    match r with
    | '.' :: t => (takeDigits? 6 t).getD (0, t)
    | _ => (0, r)
  let offset ← readIsoOffset? r
  let wall := Reading.toSeconds ⟨⟨y, mo, d⟩, h, mi, sec⟩
  match offset with
  | some o => some (.fixed ⟨wall - o, micros, o⟩)
  | none => some (.floating wall micros)

end Mailroom
