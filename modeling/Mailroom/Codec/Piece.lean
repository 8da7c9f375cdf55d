import Mailroom.Text.Basic

/-!
# Octets cut into characters

Reading octets with a character set gives pieces: characters, and octets that are none.

* `Piece.singles`   one octet for each character;
* `Piece.cut`       one or more octets for each character.
-/

namespace Mailroom

/-- a character, or octets that are none -/
inductive Piece where
  | char (c : Char)
  | bad (b : Octets)
deriving Repr

namespace Piece

/-- one octet for each character -/
def singles (f : UInt8 → Option Char) (b : Octets) : List Piece :=
  b.map fun x => match f x with
    | some c => .char c
    | none => .bad [x]

/-- some octets are left out, then `front?` tells the character at the front and the number of
further octets that it takes -/
def cutFrom (front? : Octets → Option (Char × Nat)) : Nat → Octets → List Piece
  | _, [] => []
  | n + 1, _ :: r => cutFrom front? n r
  | 0, b :: r =>
    match front? (b :: r) with
    | some (c, n) => .char c :: cutFrom front? n r
    | none => .bad [b] :: cutFrom front? 0 r

/-- the octets cut by `front?`, which tells the character at the front of some octets and the number
of octets behind the first that it takes -/
def cut (front? : Octets → Option (Char × Nat)) (b : Octets) : List Piece := cutFrom front? 0 b

end Piece
end Mailroom
