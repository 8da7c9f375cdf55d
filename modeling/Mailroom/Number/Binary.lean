/-!
# Binary fractions

Fractions of 53 significant bits.  They are kept as naturals that count steps of `2^-1074`, the
distance of the smallest ones; from `2^1024` on there are none.

* `Binary.nearest num den`   the fraction nearest to `num / den`, in steps; an exact tie goes to the
  even one;
* `Binary.roundDiv`          a quotient rounded to the nearest natural.
-/

namespace Mailroom.Binary

/-- the steps in one unit -/
def unit : Nat := Nat.pow 2 1074

/-- the first natural that is no fraction any more, in steps -/
def ceiling : Nat := Nat.pow 2 2098

/-- the distance, in steps, between fractions near `n` steps: 53 bits are significant -/
def spacing (n : Nat) : Nat := Nat.pow 2 (n.log2 - 52)

/-- a quotient rounded to the nearest natural, a tie to the even one -/
def roundDiv (num den : Nat) : Nat :=
  let q := num / den
  let r := num % den
  if den < 2 * r ∨ (2 * r = den ∧ q % 2 = 1) then q + 1 else q

/-- the fraction nearest to `num / den`, in steps -/
def nearest (num den : Nat) : Nat :=
  let gap := spacing (num * unit / den)
  roundDiv (num * unit) (den * gap) * gap

end Mailroom.Binary
