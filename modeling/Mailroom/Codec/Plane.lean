import Mailroom.Text.Basic

/-!
# Planes of characters

Large character sets number their characters, with gaps.  A plane lists the stretches without a gap.

* `Plane.run`     the characters of a stretch;
* `Plane.char?`   the character of a number.
-/

namespace Mailroom

/-- characters with numbers: each stretch with the number of its first character -/
abbrev Plane := List (Nat × Array Char)

namespace Plane

/-- the characters of a stretch -/
def run (s : String) : Array Char := s.toList.toArray

/-- the character of a number -/
def char? (p : Plane) (n : Nat) : Option Char :=
  p.findSome? fun r => if r.1 ≤ n then r.2[n - r.1]? else none

/-- all characters in the order of their numbers -/
def chars (p : Plane) : Text := p.flatMap fun r => r.2.toList

end Plane
end Mailroom
