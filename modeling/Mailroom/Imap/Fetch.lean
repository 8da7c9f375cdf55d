import Mailroom.Message.Reading
import Mailroom.WholeNumber

/-!
# Fetched messages

The answer of a mail server to a fetch is a list of items: literals, each behind a text that names
the message, and texts of their own.  What a text says of a message may stand before or behind its
literal, so the text behind a literal is read together with the text in front of it.

* `Fetched`          a message with what the store knows of it;
* `Fetched.sent`     the date its header gives;
* `Fetch.flags`, `Fetch.size?`, `Fetch.received?`   what a text says;
* `Fetch.read`       the messages of an answer, in order.
-/

namespace Mailroom

/-- a message with what the store knows of it -/
structure Fetched where
  number : Int
  flags : List Text
  size : Int
  received : Option Stamp
  message : Message

/-- an item of an answer to a fetch -/
inductive FetchItem where
  | literal (front body : Octets)
  | line (b : Octets)
  | nothing
deriving DecidableEq, Repr

namespace Fetched

/-- the date of the header on the local clock, if it has one that can be read -/
def sent (zone : Zone) (f : Fetched) : Except Fault (Option Stamp) := do
  match ← f.message.header.field? "Date" with
  | none | some [] => return none
  | some v =>
    match Letter.read v with
    | .error .malformed => return none
    | .error (.tooLarge e) => throw (@Fault.hugeNumber e)
    | .ok m =>
      match zone.localize m with
      | .ok s => return some s
      | .error .dateOutOfRange => throw (.clock .dateOutOfRange)
      | .error _ => return none

end Fetched

namespace Fetch

/-! ## what a text says -/

/-- the first place of `w` with its rest, among the places whose rest passes a test -/
def findAfter? {α : Type} (w : Text) (test : Text → Option α) : Text → Option α
  | [] => Text.after? w [] >>= test
  | c :: r => (Text.after? w (c :: r) >>= test) <|> findAfter? w test r

/-- the last place of `w` in the first line with a rest that passes a test -/
def findLastAfter? {α : Type} (w : Text) (test : Text → Option α) : Text → Option α
  | [] => Text.after? w [] >>= test
  | c :: r =>
    (if c = '\n' then none else findLastAfter? w test r) <|> (Text.after? w (c :: r) >>= test)

/-- a blank in the texts of servers -/
def isBlank (c : Char) : Bool := c == ' ' || ('\t' ≤ c && c ≤ '\r')

/-- the flags a text lists, as they were sent -/
def flagWords (s : Text) : List Text :=
  match findLastAfter? "FLAGS (" (fun r => match Text.cutAt ')' r with
    | (inner, some _) => some inner
    | (_, none) => none) s with
  | some inner => Text.wordsBy isBlank inner
  | none => []

/-- a flag, which has to be ASCII -/
def flag (w : Text) : Except Fault Text :=
  match w.findIdx? fun c => !Text.isAscii c with
  | none => .ok w
  | some i => .error (.notAsciiOctet i (((w[i]?).bind Text.rawOctet?).getD 0))

/-- the flags a text lists -/
def flags (s : Text) : Except Fault (List Text) := (flagWords s).mapM flag

/-- the size a text tells -/
def size? (s : Text) : Except Fault (Option Int) :=
  let digits (r : Text) : Option Text :=
    match r.takeWhile fun c => (Text.asciiDigit? c).isSome with
    | [] => none
    | ds => some ds
  match findAfter? "RFC822.SIZE " digits s with
  | none => .ok none
  | some ds => (WholeNumber.ofText ds).map some

/-- a date of the store: day, name of the month, year, time in seconds and offset in seconds -/
structure StoreDate where
  day : Nat
  month : Text
  year : Nat
  time : Nat
  offset : Int
deriving DecidableEq, Repr

/-- two digits, the first of them possibly a space -/
def dayOfMonth? : Text → Option (Nat × Text)
  | ' ' :: d :: r => (Text.asciiDigit? d).map (·, r)
  | c :: d :: r => do
    let a ← if c ≤ '3' then Text.asciiDigit? c else none
    let b ← Text.asciiDigit? d
    some (10 * a + b, r)
  | _ => none

/-- an upper-case letter and two lower-case ones -/
def monthWord? : Text → Option (Text × Text)
  | a :: b :: c :: r =>
    let small (c : Char) : Bool := 'a' ≤ c && c ≤ 'z'
    if ('A' ≤ a && a ≤ 'Z') && small b && small c then some ([a, b, c], r) else none
  | _ => none

/-- a date of the store up to the quote behind it -/
def storeDate? (s : Text) : Option StoreDate := do
  let (day, r) ← dayOfMonth? s
  let r ← takeChar? '-' r
  let (month, r) ← monthWord? r
  let r ← takeChar? '-' r
  let (year, r) ← takeDigits? 4 r
  let r ← takeChar? ' ' r
  let (h, r) ← takeDigits? 2 r
  let r ← takeChar? ':' r
  let (m, r) ← takeDigits? 2 r
  let r ← takeChar? ':' r
  let (sec, r) ← takeDigits? 2 r
  let r ← takeChar? ' ' r
  let (sign, r) ← match r with
    | '+' :: r => some ((1 : Int), r)
    | '-' :: r => some (-1, r)
    | _ => none
  let (oh, r) ← takeDigits? 2 r
  let (om, r) ← takeDigits? 2 r
  let _ ← takeChar? '"' r
  some ⟨day, month, year, h * 3600 + m * 60 + sec, sign * ((oh * 60 + om) * 60 : Nat)⟩

/-- the instant of a date of the store; its day and its time are not checked -/
def StoreDate.instant (d : StoreDate) : Except Fault Int :=
  match Date.monthNames.findIdx? (· == d.month) with
  | none => .error (.unknownMonth (Text.toOctets d.month))
  | some i =>
    if d.year = 0 then .error (.clock (.yearOutOfRange 0))
    else
      .ok ((Date.toDays ⟨d.year, i + 1, 1⟩ + d.day - 1) * secondsPerDay + d.time - d.offset)

/-- the day a text says the message was received, on the local clock -/
def received? (zone : Zone) (s : Text) : Except Fault (Option Stamp) :=
  match findLastAfter? "INTERNALDATE \"" storeDate? s with
  | none => .ok none
  | some d => do
    let t ← d.instant
    return some (← orFault .clock (zone.ofInstant t))

/-! ## answers -/

/-- the message of a literal and the texts around it -/
def message (zone : Zone) (about body : Octets) : Except Fault Fetched := do
  let number ← WholeNumber.ofOctets (about.takeWhile (· ≠ 32))
  let s := Text.ofMail about
  let flags ← flags s
  let size ← size? s
  let received ← received? zone s
  let m ← Message.read body
  return ⟨number, flags, size.getD body.length, received, m⟩

/-- the literals of an answer, each with the texts around it -/
def literals : List FetchItem → List (Octets × Octets)
  | [] => []
  | .literal front body :: rest =>
    match rest with
    | .line b :: _ => (front ++ b, body) :: literals rest
    | _ => (front, body) :: literals rest
  | _ :: rest => literals rest

/-- the messages of an answer, in order -/
def read (zone : Zone) (items : List FetchItem) : Except Fault (List Fetched) :=
  (literals items).mapM fun p => message zone p.1 p.2

end Fetch
end Mailroom
