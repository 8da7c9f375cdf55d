import Mailroom.Text.Blank
import Mailroom.Text.Digit

/-!
# Integers in free text

`readInteger?` reads what people type for an integer: blanks around it, a sign, digits of any
script, and single underscores between digits.
-/

namespace Mailroom.Text

/-- a blank that may stand around an integer: of the ASCII blanks the four separators may not -/
def isPadding (c : Char) : Bool :=
  isBlank c && (128 ≤ c.toNat || c == ' ' || (9 ≤ c.toNat && c.toNat ≤ 13))

/-- the values of digits, where an underscore may stand between two of them; `open'` tells whether a
digit has to follow -/
def groupedDigits? : Bool → Text → Option (List Nat)
  | needDigit, [] => if needDigit then none else some []
  | needDigit, c :: r =>
    match digit? c with
    | some d => (groupedDigits? false r).map (d :: ·)
    | none => if c = '_' ∧ ¬needDigit then groupedDigits? true r else none

/-- why a text is no integer -/
inductive IntegerError where
  | notInteger
  | tooLong (digits : Nat)
deriving DecidableEq, Repr

/-- the integer a text stands for; no more than `limit` digits are read -/
def readInteger (limit : Nat) (s : Text) : Except IntegerError Int :=
  let t := trimWhere isPadding s
  let (sign, ds) : Int × Text :=
    match t with
    | '-' :: r => (-1, r)
    | '+' :: r => (1, r)
    | r => (1, r)
  match groupedDigits? true ds with
  | none => .error .notInteger
  | some ds =>
    if limit < ds.length then .error (.tooLong ds.length)
    else .ok (sign * (digitsValue ds : Nat))

end Mailroom.Text
