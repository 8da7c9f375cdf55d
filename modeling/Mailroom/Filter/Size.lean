import Mailroom.Text.Case
import Mailroom.Text.Digit
import Mailroom.Fault
import Mailroom.Number.Binary

/-!
# Sizes

A size is a decimal number with the unit `kb` or `mb`, rounded half up to whole bytes.  The number
is the binary fraction nearest to the decimal.

* `Filter.readDecimal?`   the decimal number a text stands for;
* `Filter.parseSize`      the bytes of a size.
-/

namespace Mailroom

/-- a decimal number: its digits without the point, and how many of them stand behind it -/
structure DecimalText where
  digits : Nat
  places : Nat
deriving DecidableEq, Repr

namespace Filter

/-! ## the grammar of sizes -/

/-- digits with at most one point among them and at least one digit, where a point that ends or
begins the number is allowed -/
def readDecimal? (s : Text) : Option DecimalText :=
  match Text.cutAt '.' s with
  | (_, none) => if s.isEmpty then none else (Text.digits? s).map fun ds => ⟨Text.digitsValue ds, 0⟩
  | (whole, some part) =>
    if whole.isEmpty ∧ part.isEmpty then none
    else do
      let a ← Text.digits? whole
      let b ← Text.digits? part
      some ⟨Text.digitsValue (a ++ b), b.length⟩

/-- the bytes of a unit -/
def unitBytes? (u : Text) : Option Nat :=
  if u = "kb".toList then some 1024 else if u = "mb".toList then some 1048576 else none

/-- the bytes of a size, as steps of a binary fraction rounded half up -/
def wholeBytes (steps : Nat) : Nat := Binary.nearest (2 * steps + Binary.unit) (2 * Binary.unit)
  / Binary.unit

/-- the bytes that a size stands for -/
def parseSize (value : Text) : Except FilterError Nat :=
  if value.length < 3 then .error ⟨.badSizeShape, value⟩
  else
    let number := value.take (value.length - 2)
    match unitBytes? (Text.lower (value.drop (value.length - 2))) with
    | none => .error ⟨.badSizeUnit, value⟩
    | some bytes =>
      match readDecimal? number with
      | none => .error ⟨.badSizeNumber, value⟩
      | some d =>
        let steps := Binary.nearest d.digits (Nat.pow 10 d.places) * bytes
        if Binary.ceiling ≤ steps then .error ⟨.sizeTooLarge, value⟩
        else .ok (wholeBytes steps)

end Filter
end Mailroom
