import Mailroom.Text.Basic

/-!
# Decimal digits of every script

Each script writes its ten digits on ten consecutive code points; `digitZeros` lists the zeros.
Main statements: the ASCII digits are digits with their own value (`digit?_of_asciiDigit?`).
-/

namespace Mailroom.Text

/-- the code points of the digit zero, ascending -/
def digitZeros : List Nat :=
  [0x30, 0x660, 0x6f0, 0x7c0, 0x966, 0x9e6, 0xa66, 0xae6, 0xb66, 0xbe6, 0xc66, 0xce6, 0xd66,
    0xde6, 0xe50, 0xed0, 0xf20, 0x1040, 0x1090, 0x17e0, 0x1810, 0x1946, 0x19d0, 0x1a80, 0x1a90,
    0x1b50, 0x1bb0, 0x1c40, 0x1c50, 0xa620, 0xa8d0, 0xa900, 0xa9d0, 0xa9f0, 0xaa50, 0xabf0,
    0xff10, 0x104a0, 0x10d30, 0x11066, 0x110f0, 0x11136, 0x111d0, 0x112f0, 0x11450, 0x114d0,
    0x11650, 0x116c0, 0x11730, 0x118e0, 0x11950, 0x11c50, 0x11d50, 0x11da0, 0x16a60, 0x16ac0,
    0x16b50, 0x1d7ce, 0x1d7d8, 0x1d7e2, 0x1d7ec, 0x1d7f6, 0x1e140, 0x1e2f0, 0x1e950, 0x1fbf0]

/-- a decimal digit of any script and its value -/
def digit? (c : Char) : Option Nat :=
  (digitZeros.find? fun z => z ≤ c.toNat && c.toNat < z + 10).map (c.toNat - ·)

/-- a decimal digit of any script -/
def isDigit (c : Char) : Bool := (digit? c).isSome

theorem digit?_of_asciiDigit? {c : Char} {n : Nat} (h : asciiDigit? c = some n) :
    digit? c = some n := by
  unfold asciiDigit? at h
  split at h
  · rename_i hc
    have h1 : 48 ≤ c.toNat := hc.1
    have h2 : c.toNat ≤ 57 := hc.2
    have h3 : c.toNat < 58 := by omega
    cases h
    simp [digit?, digitZeros, h1, h3]
  · cases h

/-- the value of a list of digit values, most significant first -/
def digitsValue (ds : List Nat) : Nat := ds.foldl (fun a d => 10 * a + d) 0

/-- a text that consists of digits, as their values; none if a character is no digit -/
def digits? (s : Text) : Option (List Nat) := s.mapM digit?

end Mailroom.Text
