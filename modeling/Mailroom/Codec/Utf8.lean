import Mailroom.Text.Basic

/-!
# UTF-8

`encode` writes a text as octets; `next` reads one character from octets or tells how many octets at
the front are no character and why.

* `decode?`    all of the octets as text, or the first fault with its place;
* `repair`     each faulty stretch read as U+FFFD.

A faulty stretch is the longest front that some character begins with, or one octet.
-/

namespace Mailroom.Utf8

/-- the octets of a text -/
def encode (s : Text) : Octets := s.flatMap String.utf8EncodeChar

theorem encode_nil : encode [] = [] := rfl
theorem encode_cons (c : Char) (s : Text) :
    encode (c :: s) = String.utf8EncodeChar c ++ encode s := rfl
theorem encode_append (a b : Text) : encode (a ++ b) = encode a ++ encode b := by
  simp [encode, List.flatMap_append]

/-- why octets are no character -/
inductive Fault where
  | badStart
  | badContinuation
  | endOfData
deriving DecidableEq, Repr

/-- the wording of a fault -/
def Fault.message : Fault → Text
  | .badStart => "invalid start byte"
  | .badContinuation => "invalid continuation byte"
  | .endOfData => "unexpected end of data"

/-- what the front of some octets is: a character, or `count` octets that are none -/
inductive Piece where
  | char (c : Char) (count : Nat)
  | bad (count : Nat) (why : Fault)
deriving Repr

/-- `need` octets of continuation, the first of them between `lo` and `hi` -/
def continuation (lo hi : UInt8) : Nat → Nat → Nat → Octets → Piece
  | 0, count, acc, _ => .char (Char.ofNat acc) count
  | _ + 1, count, _, [] => .bad count .endOfData
  | need + 1, count, acc, b :: r =>
    if lo ≤ b ∧ b ≤ hi then
      continuation 0x80 0xbf need (count + 1) (acc * 64 + (b.toNat - 0x80)) r
    else .bad count .badContinuation

/-- the piece at the front of octets that begin with `b` -/
def next (b : UInt8) (r : Octets) : Piece :=
  if b < 0x80 then .char (Char.ofNat b.toNat) 1
  else if b < 0xc2 then .bad 1 .badStart
  else if b < 0xe0 then continuation 0x80 0xbf 1 1 (b.toNat - 0xc0) r
  else if b = 0xe0 then continuation 0xa0 0xbf 2 1 0 r
  else if b = 0xed then continuation 0x80 0x9f 2 1 0xd r
  else if b < 0xf0 then continuation 0x80 0xbf 2 1 (b.toNat - 0xe0) r
  else if b = 0xf0 then continuation 0x90 0xbf 3 1 0 r
  else if b < 0xf4 then continuation 0x80 0xbf 3 1 (b.toNat - 0xf0) r
  else if b = 0xf4 then continuation 0x80 0x8f 3 1 4 r
  else .bad 1 .badStart

/-- the pieces of octets in order; `skip` octets belong to a piece that was read already -/
def pieces : Nat → Octets → List (Octets × Piece)
  | _, [] => []
  | skip + 1, _ :: r => pieces skip r
  | 0, b :: r =>
    let p := next b r
    let count := match p with
      | .char _ n => n
      | .bad n _ => n
    ((b :: r).take count, p) :: pieces (count - 1) r

/-- a text with every faulty stretch read as U+FFFD -/
def repair (b : Octets) : Text :=
  (pieces 0 b).map fun p => match p.2 with
    | .char c _ => c
    | .bad _ _ => '\ufffd'

/-- the octets are no text: the faulty stretch, its place and the reason -/
structure DecodeError where
  start : Nat
  stretch : Octets
  why : Fault
deriving DecidableEq, Repr

/-- the text of pieces that begin at octet `place` -/
def assemble (place : Nat) : List (Octets × Piece) → Except DecodeError Text
  | [] => .ok []
  | (_, .char c n) :: ps => (assemble (place + n) ps).map (c :: ·)
  | (s, .bad _ why) :: _ => .error ⟨place, s, why⟩

/-- the text that octets stand for -/
def decode? (b : Octets) : Except DecodeError Text := assemble 0 (pieces 0 b)

end Mailroom.Utf8
