import Mailroom.Text.Basic

/-!
# Base 64

Three octets in four characters of a 64-letter alphabet, `=` filling the last group.

* `encode`       the characters of some octets;
* `decode?`      the octets of some characters: characters outside the alphabet are passed over and
                 reading stops at a full padding; none if the characters left over make no octet;
* `decodeLax`    padding supplied where it is missing, the input itself if even that fails.
-/

namespace Mailroom.Base64

/-- the letter of a value below 64 -/
def letter (n : Nat) : UInt8 :=
  if n < 26 then UInt8.ofNat (65 + n)
  else if n < 52 then UInt8.ofNat (97 + (n - 26))
  else if n < 62 then UInt8.ofNat (48 + (n - 52))
  else if n = 62 then 43
  else 47

/-- the value of a letter -/
def value? (b : UInt8) : Option Nat :=
  let n := b.toNat
  if 65 ≤ n ∧ n ≤ 90 then some (n - 65)
  else if 97 ≤ n ∧ n ≤ 122 then some (n - 97 + 26)
  else if 48 ≤ n ∧ n ≤ 57 then some (n - 48 + 52)
  else if n = 43 then some 62
  else if n = 47 then some 63
  else none

/-- the padding character -/
def pad : UInt8 := 61

/-- octets in groups of four letters -/
def encode : Octets → Octets
  | [] => []
  | [a] =>
    let n := a.toNat * 16
    [letter (n / 64), letter (n % 64), pad, pad]
  | [a, b] =>
    let n := (a.toNat * 256 + b.toNat) * 4
    [letter (n / 4096), letter (n / 64 % 64), letter (n % 64), pad]
  | a :: b :: c :: r =>
    let n := (a.toNat * 256 + b.toNat) * 256 + c.toNat
    letter (n / 262144) :: letter (n / 4096 % 64) :: letter (n / 64 % 64) :: letter (n % 64)
      :: encode r

/-- octets in lines of `groups` groups of three octets, each line ended by a line feed -/
def encodeLines (groups : Nat) (b : Octets) : Octets :=
  go b.length b
where
  go : Nat → Octets → Octets
    | _, [] => []
    | 0, _ => []
    | n + 1, b => encode (b.take (3 * groups)) ++ [10] ++ go n (b.drop (3 * groups))

/-- letters read with `held` (a value below 64) left over from `have` letters of the group and
`pads` padding characters seen since -/
def decodeFrom (seen held pads : Nat) : Octets → Option Octets
  | [] => if seen = 0 then some [] else none
  | b :: r =>
    if b = pad then
      if 2 ≤ seen then
        if 4 ≤ seen + (pads + 1) then some [] else decodeFrom seen held (pads + 1) r
      else decodeFrom seen held pads r
    else
      match value? b with
      | none => decodeFrom seen held pads r
      | some v =>
        match seen with
        | 0 => decodeFrom 1 v 0 r
        | 1 => (decodeFrom 2 (v % 16) 0 r).map (UInt8.ofNat (held * 4 + v / 16) :: ·)
        | 2 => (decodeFrom 3 (v % 4) 0 r).map (UInt8.ofNat (held * 16 + v / 4) :: ·)
        | _ => (decodeFrom 0 0 0 r).map (UInt8.ofNat (held * 64 + v) :: ·)

/-- the octets of some letters -/
def decode? (b : Octets) : Option Octets := decodeFrom 0 0 0 b

/-- the octets of some letters, with padding supplied; the letters themselves if they make no octets -/
def decodeLax (b : Octets) : Octets :=
  match decode? b with
  | some o => o
  | none => (decode? (b ++ [pad, pad])).getD b

/-- the length of the letters of `n` octets -/
def encodedLength (n : Nat) : Nat := (n + 2) / 3 * 4

end Mailroom.Base64
