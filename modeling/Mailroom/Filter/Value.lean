import Mailroom.Filter.Size

/-!
# Values of filter terms

Each field has its own kind of value.

* `parseNumber`       an optional sign and digits of any script;
* `parseTimestamp`    `YYYY-MM-DDTHH.MM.SS`, a reading of the local clock;
* `resolveAddress`    an address if the text is one when its commas are taken out, a name otherwise;
* `isKeyword`         the names that a flag may have.
-/

namespace Mailroom.Filter

/-! ## numbers -/

/-- a message number -/
def parseNumber (value : Text) : Except Fault Int :=
  let (sign, ds) : Int × Text :=
    match value with
    | '-' :: r => (-1, r)
    | '+' :: r => (1, r)
    | r => (1, r)
  match ds, Text.digits? ds with
  | _ :: _, some ns =>
    if maxDigits < ns.length then .error (.tooManyDigits ns.length)
    else .ok (sign * (Text.digitsValue ns : Nat))
  | _, _ => .error (.filter ⟨.badNumber, value⟩)

/-! ## timestamps -/

/-- the shape of a timestamp: `d` for a digit of any script, every other mark for itself -/
def timestampShape : Text := "dddd-dd-ddTdd.dd.dd"

/-- whether a text has a shape -/
def hasShape : Text → Text → Bool
  | [], [] => true
  | 'd' :: fs, c :: r => Text.isDigit c && hasShape fs r
  | f :: fs, c :: r => f == c && hasShape fs r
  | _, _ => false

/-- two digits, the first from the ASCII digits `lo` to `hi`, the second of any script -/
def clockDigits? (hi : Nat) (a b : Char) : Option Nat := do
  let x ← Text.asciiDigit? a
  let y ← Text.digit? b
  if x ≤ hi then some (10 * x + y) else none

/-- two ASCII digits of a month -/
def monthDigits? (a b : Char) : Option Nat := do
  let n := 10 * (← Text.asciiDigit? a) + (← Text.asciiDigit? b)
  if 1 ≤ n ∧ n ≤ 12 then some n else none

/-- two digits of a day; the second may be of any script only after a 1 or a 2 -/
def dayDigits? (a b : Char) : Option Nat := do
  let x ← Text.asciiDigit? a
  if x = 1 ∨ x = 2 then return 10 * x + (← Text.digit? b)
  let n := 10 * x + (← Text.asciiDigit? b)
  if 1 ≤ n ∧ n ≤ 31 then some n else none

/-- an hour: the second digit may be of any script only after a 0 or a 1 -/
def hourDigits? (a b : Char) : Option Nat := do
  let x ← Text.asciiDigit? a
  if x ≤ 1 then return 10 * x + (← Text.digit? b)
  let n := 10 * x + (← Text.asciiDigit? b)
  if n ≤ 23 then some n else none

/-- a second: the second digit may be of any script only after a 0 to 5 -/
def secondDigits? (a b : Char) : Option Nat := do
  let x ← Text.asciiDigit? a
  if x ≤ 5 then return 10 * x + (← Text.digit? b)
  let n := 10 * x + (← Text.asciiDigit? b)
  if n ≤ 61 then some n else none

/-- the reading a timestamp gives, if its fields are in range -/
def readTimestamp? : Text → Option Reading
  | [y1, y2, y3, y4, _, m1, m2, _, d1, d2, _, h1, h2, _, n1, n2, _, s1, s2] => do
    let year ← Text.digits? [y1, y2, y3, y4]
    let month ← monthDigits? m1 m2
    let day ← dayDigits? d1 d2
    let hour ← hourDigits? h1 h2
    let minute ← clockDigits? 5 n1 n2
    let second ← secondDigits? s1 s2
    let r : Reading := ⟨⟨(Text.digitsValue year : Nat), month, day⟩, hour, minute, second⟩
    if r.IsValid then some r else none
  | _ => none

/-- the stamp of a reading of the local clock -/
def parseTimestamp (zone : Zone) (value : Text) : Except Fault Stamp :=
  if hasShape timestampShape value then
    match readTimestamp? value with
    | none => .error (.filter ⟨.badDate, value⟩)
    | some r => orFault .clock (zone.readLocal r.toSeconds 0 false)
  else .error (.filter ⟨.badDateShape, value⟩)

/-! ## addresses and flags -/

/-- an address if the text is one without its commas, the text as a name otherwise -/
def resolveAddress (value : Text) : Target :=
  match Address.parse (value.filter (· ≠ ',')) with
  | .ok a => .address a
  | .error _ => .personal (Text.trim value)

/-- the marks that a keyword may hold beside letters and digits -/
def keywordMarks : Text := "!#$&'+,-./:;<=>?@[^_\x60|\x7d~"

/-- one or more characters of an atom of the mail protocol -/
def isKeyword (s : Text) : Bool :=
  !s.isEmpty && s.all fun c => Address.isAlnum c || keywordMarks.contains c

end Mailroom.Filter
