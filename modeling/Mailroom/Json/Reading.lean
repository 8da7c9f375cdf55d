import Mailroom.Fault
import Mailroom.Json.Value
import Mailroom.Text.Digit

/-!
# Reading JSON

`Json.read` reads a text that holds one value and nothing else.  Besides the grammar of the standard
it reads `NaN`, `Infinity` and `-Infinity`.

Every reader takes the text that is left and gives a value and what is left behind it; a reader that
fails tells what is wrong and how many characters were left there.

* `leaf`        a value without values inside;
* `container`   what stands between brackets, read one by one;
* `value`       any value, with room for so many containers one inside the other.
-/

namespace Mailroom.Json

/-- why a reader fails -/
inductive ReadError where
  | wrong (why : Why) (left : Nat)
  | tooManyDigits (count : Nat)
  | tooDeep (c : Container)

/-- a value and the text behind it -/
abbrev Read (α : Type) := Except ReadError (α × Text)

/-- a complaint about the text that is left -/
def wrong {α : Type} (why : Why) (left : Text) : Read α := .error (.wrong why left.length)

/-- blanks between the parts of a value -/
def isBlank (c : Char) : Bool := c == ' ' || c == '\t' || c == '\n' || c == '\r'

/-- the text behind blanks -/
def skip (s : Text) : Text := s.dropWhile isBlank

/-! ## texts -/

/-- the character of an escape of one character -/
def escaped? (c : Char) : Option Char :=
  if c = '"' ∨ c = '\\' ∨ c = '/' then some c
  else if c = 'b' then some '\x08'
  else if c = 'f' then some '\x0c'
  else if c = 'n' then some '\n'
  else if c = 'r' then some '\r'
  else if c = 't' then some '\t'
  else none

/-- the number that four hexadecimal digits stand for -/
def hex4? (a b c d : Char) : Option Nat := do
  let a ← Text.hexDigit? a
  let b ← Text.hexDigit? b
  let c ← Text.hexDigit? c
  let d ← Text.hexDigit? d
  some (((a * 16 + b) * 16 + c) * 16 + d)

/-- the first half of a pair -/
def isHigh (n : Nat) : Bool := 0xd800 ≤ n && n ≤ 0xdbff

/-- the second half of a pair -/
def isLow (n : Nat) : Bool := 0xdc00 ≤ n && n ≤ 0xdfff

/-- the character of a number, a replacement for half a pair -/
def charOf (n : Nat) : Char := if isHigh n || isLow n then '\ufffd' else Char.ofNat n

/-- a character in front of what is read -/
def push (c : Char) : Read Text → Read Text := Except.map fun p => (c :: p.1, p.2)

/-- the number of an escape that begins with `u` -/
def unicode? : Text → Option Nat
  | 'u' :: a :: b :: c :: d :: _ :: _ => hex4? a b c d
  | _ => none

/-- the character that a pair of numbers stands for -/
def ofPair (high low : Nat) : Char := Char.ofNat (0x10000 + (high - 0xd800) * 0x400 + (low - 0xdc00))

/-- the character of a number in front of more text, and the characters its escape takes: the first half
of a pair takes the escape of the second one with it -/
def joined (n : Nat) (r : Text) : Except ReadError (Char × Nat) :=
  match isHigh n, r with
  | true, '\\' :: 'u' :: r =>
    if r.length < 5 then .ok (charOf n, 5)
    else
      match unicode? ('u' :: r) with
      | none => .error (.wrong .unicodeEscape (r.length + 1))
      | some m => .ok (if isLow m then (ofPair n m, 11) else (charOf n, 5))
  | _, _ => .ok (charOf n, 5)

/-- the character of the escape behind a backslash, and the characters it takes -/
def escape (opened : Nat) (q : Text) : Except ReadError (Char × Nat) :=
  match q with
  | [] => .error (.wrong .openText opened)
  | 'u' :: _ =>
    match unicode? q with
    | none => .error (.wrong .unicodeEscape q.length)
    | some n => joined n (q.drop 5)
  | c :: _ =>
    match escaped? c with
    | some x => .ok (x, 1)
    | none => .error (.wrong .escape (q.length + 1))

/-- a text up to its closing quote; `opened` counts the characters from the opening one on, and some
characters are skipped first -/
def textFrom (opened : Nat) : (skipping : Nat) → Text → Read Text
  | _, [] => .error (.wrong .openText opened)
  | n + 1, _ :: r => textFrom opened n r
  | 0, c :: r =>
    if c = '"' then .ok ([], r)
    else if c = '\\' then
      match escape opened r with
      | .ok (x, n) => push x (textFrom opened n r)
      | .error e => .error e
    else if c.toNat < 32 then .error (.wrong .controlChar (r.length + 1))
    else push c (textFrom opened 0 r)

/-- a text behind its opening quote -/
def quotedText (r : Text) : Read Text := textFrom (r.length + 1) 0 r

/-! ## numbers -/

/-- digits, at least one, and the text behind them -/
def someDigits? (s : Text) : Option (Text × Text) :=
  if (s.takeWhile Char.isDigit).isEmpty then none
  else some (s.takeWhile Char.isDigit, s.dropWhile Char.isDigit)

/-- the whole part of a number: a zero, or digits that do not begin with one -/
def wholePart? : Text → Option (Text × Text)
  | '0' :: r => some (['0'], r)
  | s => someDigits? s

/-- the digits behind a point -/
def pointPart : Text → Option (Text × Text)
  | '.' :: r => someDigits? r
  | _ => none

/-- the natural number that digits stand for -/
def naturalOf (ds : Text) : Nat := (Text.digits? ds).elim 0 Text.digitsValue

/-- an exponent -/
def exponentPart (s : Text) : Option (Int × Text) :=
  let digits (sign : Int) (r : Text) := (someDigits? r).map fun p => (sign * (naturalOf p.1 : Int), p.2)
  match s with
  | 'e' :: '-' :: r | 'E' :: '-' :: r => digits (-1) r
  | 'e' :: '+' :: r | 'E' :: '+' :: r => digits 1 r
  | 'e' :: r | 'E' :: r => digits 1 r
  | _ => none

/-- the largest power of ten worth computing -/
def maxExponent : Nat := 5000

/-- the fraction of digits at a power of ten, in steps -/
def stepsOf (digits : Nat) (exponent : Int) : Nat :=
  if digits = 0 then 0
  else if exponent < 0 then
    Binary.nearest digits (Nat.pow 10 exponent.natAbs)
  else Binary.nearest (digits * Nat.pow 10 (min exponent.natAbs maxExponent)) 1

/-- the whole number of a sign and digits -/
def integer (negative : Bool) (ds : Text) : Json :=
  whole (if negative then -(naturalOf ds : Int) else naturalOf ds)

/-- the fraction of a sign, digits in front of a point and behind it, and an exponent -/
def decimal (negative : Bool) (ds places : Text) (exponent : Int) : Json :=
  let least : Int := -(ds.length + places.length + maxExponent : Int)
  let e := exponent - places.length
  fraction negative (stepsOf (naturalOf (ds ++ places)) (if e < least then least else e))

/-- a number without its sign -/
def number (negative : Bool) (start s : Text) : Read Json :=
  match wholePart? s with
  | none => wrong .value start
  | some (ds, r) =>
    match pointPart r, exponentPart ((pointPart r).elim r (·.2)) with
    | none, none =>
      if maxDigits < ds.length then .error (.tooManyDigits ds.length)
      else .ok (integer negative ds, r)
    | point, exponent =>
      .ok (decimal negative ds (point.elim [] (·.1)) (exponent.elim 0 (·.1)),
        exponent.elim (point.elim r (·.2)) (·.2))

/-! ## values -/

/-- the words that stand for values -/
def words : List (Text × Json) :=
  [("null", null), ("true", bool true), ("false", bool false), ("NaN", notANumber),
    ("Infinity", fraction false Binary.ceiling), ("-Infinity", fraction true Binary.ceiling)]

/-- the value of a word -/
def word? (s : Text) : Option (Json × Text) :=
  words.findSome? fun w => (Text.after? w.1 s).map (w.2, ·)

/-- a value without values inside -/
def leaf (s : Text) : Read Json :=
  match s with
  | '"' :: r => (quotedText r).map fun p => (text p.1, p.2)
  | s =>
    match word? s with
    | some p => .ok p
    | none =>
      match s with
      | '-' :: r => number true s r
      | s => number false s s

section
variable {α : Type}

/-- items up to a closing bracket, with commas between them; `one` reads an item, and there are no more
than `steps` -/
def items (close : Char) (one : Text → Read α) : (steps : Nat) → Text → Read (List α)
  | 0, s => wrong .value s
  | n + 1, s =>
    match one s with
    | .error e => .error e
    | .ok (a, r) =>
      match skip r with
      | [] => wrong .comma []
      | c :: q =>
        if c = close then .ok ([a], q)
        else if c = ',' then (items close one n (skip q)).map fun p => (a :: p.1, p.2)
        else wrong .comma (c :: q)

/-- what stands behind an opening bracket up to the closing one -/
def container (close : Char) (one : Text → Read α) (r : Text) : Read (List α) :=
  if (skip r).head? = some close then .ok ([], (skip r).tail)
  else items close one ((skip r).length + 1) (skip r)

end

/-- a field of an object; `one` reads its value -/
def field (one : Text → Read Json) (s : Text) : Read (Text × Json) :=
  match s with
  | '"' :: r =>
    match quotedText r with
    | .error e => .error e
    | .ok (name, r) =>
      match skip r with
      | ':' :: q => (one (skip q)).map fun p => ((name, p.1), p.2)
      | q => wrong .colon q
  | s => wrong .fieldName s

/-- a value; `inside` reads the values inside a container, if there is room for one -/
def valueWith (inside : Option (Text → Read Json)) (s : Text) : Read Json :=
  match s, inside with
  | '[' :: _, none => .error (.tooDeep .list)
  | '[' :: r, some one => (container ']' one r).map fun p => (list p.1, p.2)
  | '\x7b' :: _, none => .error (.tooDeep .object)
  | '\x7b' :: r, some one => (container '\x7d' (field one) r).map fun p => (object (gathered p.1), p.2)
  | s, _ => leaf s

/-- a value, with room for so many containers one inside the other -/
def value : (room : Nat) → Text → Read Json
  | 0 => valueWith none
  | room + 1 => valueWith (some (value room))

/-- the fault of a reader that was given a text -/
def fault (s : Text) : ReadError → Fault
  | .wrong why left => .notJson ⟨why, s.take (s.length - left)⟩
  | .tooManyDigits n => .tooManyDigits n
  | .tooDeep c => .tooDeep c

/-- the value that a text holds -/
def read (room : Nat) (s : Text) : Except Fault Json :=
  if s.head? = some '\ufeff' then .error (.notJson ⟨.byteOrderMark, []⟩)
  else
    match value room (skip s) with
    | .error e => .error (fault s e)
    | .ok (v, r) =>
      match skip r with
      | [] => .ok v
      | q => .error (fault s (.wrong .more q.length))

end Mailroom.Json
