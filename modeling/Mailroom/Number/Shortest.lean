import Mailroom.Number.Binary
import Mailroom.Text.Basic

/-!
# The shortest decimal of a binary fraction

A binary fraction stands for all reals that are nearer to it than to any other one.  Its written form
has the fewest digits that any decimal among those reals has.

* `Binary.decimalExponent`   the power of ten of the first digit;
* `Binary.shortest`          digits and their power of ten;
* `Binary.text`              the written form: positional from `10^-4` up to `10^16`, else with an
  exponent.
-/

namespace Mailroom.Binary

/-- whether a quotient of naturals stands for the fraction of `n` steps: it lies between the middles to
the two neighbours, which belong to it if its last bit is zero -/
def standsFor (n num den : Nat) : Bool :=
  let gap := spacing n
  let below := if n = gap * Nat.pow 2 52 ∧ 1 < gap then gap else 2 * gap
  let value := 4 * num * unit
  let low := (4 * n - below) * den
  let high := (4 * n + 2 * gap) * den
  if n / gap % 2 = 0 then low ≤ value && value ≤ high else low < value && value < high

/-- the power of ten of the first digit of a fraction that is not zero -/
def decimalExponent (n : Nat) : Int :=
  if unit ≤ n then (Nat.toDigits 10 (n / unit)).length - 1
  else
    match (List.range 400).find? fun j => unit ≤ n * Nat.pow 10 (j + 1) with
    | some j => -((j : Int) + 1)
    | none => 0

/-- digits at a power of ten, as a quotient -/
def quotient (digits : Nat) (exponent : Int) : Nat × Nat :=
  if exponent < 0 then (digits, Nat.pow 10 exponent.natAbs)
  else (digits * Nat.pow 10 exponent.natAbs, 1)

/-- the decimal of a number of digits that stands for a fraction, if one does; of two, the nearer -/
def withDigits? (n count : Nat) : Option (Nat × Int) :=
  let e := decimalExponent n - ((count : Int) - 1)
  let power := Nat.pow 10 e.natAbs
  let lower := if e < 0 then n * power / unit else n / (unit * power)
  let good (d : Nat) : Bool :=
    let q := quotient d e
    standsFor n q.1 q.2
  let distance (d : Nat) : Nat :=
    let q := quotient d e
    let a := q.1 * unit
    let b := n * q.2
    (a - b) + (b - a)
  match good lower, good (lower + 1) with
  | true, true => some (if distance (lower + 1) < distance lower then lower + 1 else lower, e)
  | true, false => some (lower, e)
  | false, true => some (lower + 1, e)
  | false, false => none

/-- digits and their power of ten: the fewest digits that stand for a fraction -/
def shortest (n : Nat) : Nat × Int :=
  ((List.range 17).findSome? fun i => withDigits? n (i + 1)).getD (0, 0)

/-- digits with a point behind the first `place` ones; zeros fill the gaps -/
def positional (digits : Text) (place : Int) : Text :=
  if place ≤ 0 then "0." ++ List.replicate place.natAbs '0' ++ digits
  else if digits.length ≤ place.natAbs then
    digits ++ List.replicate (place.natAbs - digits.length) '0' ++ ".0"
  else digits.take place.natAbs ++ "." ++ digits.drop place.natAbs

/-- digits with a point behind the first one and an exponent of at least two digits -/
def scientific (digits : Text) (exponent : Int) : Text :=
  digits.take 1 ++ (if digits.length = 1 then [] else '.' :: digits.drop 1) ++ "e"
    ++ (if exponent < 0 then ['-'] else ['+']) ++ Text.twoDigits exponent.natAbs

/-- the written form of a fraction -/
def text (n : Nat) : Text :=
  if n = 0 then "0.0"
  else if ceiling ≤ n then "inf"
  else
    let (d, e) := shortest n
    let shown := Text.decimal d
    let digits := Text.trimEndWhere (· == '0') shown
    let place : Int := shown.length + e
    if -4 < place ∧ place ≤ 16 then positional digits place else scientific digits (place - 1)

end Mailroom.Binary
