import Mailroom.Text.Basic

/-!
# Uuencoded files

A file between a `begin` line with its mode and name and an `end` line; each line between them starts
with the number of its octets and holds three octets in four characters.

* `decodeLine?`   the octets of a line, none if it holds other characters;
* `decode?`       the octets of the first file in a text, none if it has no whole file.
-/

namespace Mailroom.Uuencode

/-- the value of a character; a line that is too short goes on with zeros -/
def value? : Option UInt8 → Option Nat
  | none | some 10 | some 13 => some 0
  | some b => if 32 ≤ b ∧ b ≤ 96 then some ((b.toNat - 32) % 64) else none

/-- `left` octets from the characters, with `bits` bits of value `held` taken already -/
def octets? : Nat → Nat → Nat → Nat → Octets → Option (Octets × Octets)
  | _, 0, _, _, s => some ([], s)
  | 0, _, _, _, _ => none
  | fuel + 1, left + 1, bits, held, s => do
    let v ← value? s.head?
    let n := held * 64 + v
    let k := bits + 6
    if 8 ≤ k then
      let rest := Nat.pow 2 (k - 8)
      let (o, r) ← octets? fuel left (k - 8) (n % rest) s.tail
      some (UInt8.ofNat (n / rest) :: o, r)
    else octets? fuel (left + 1) k n s.tail

/-- the octets of a line -/
def decodeLine? : Octets → Option Octets
  | [] => none
  | b :: r => do
    let count := (b.toNat + 32) % 64
    let (o, rest) ← octets? (2 * count + 2) count 0 0 r
    if rest.all fun c => c = 32 || c = 96 || c = 10 || c = 13 then some o else none

/-- lines with their line feeds -/
def lines : Octets → List Octets
  | [] => []
  | b :: r =>
    if b = 10 then [b] :: lines r
    else
      match lines r with
      | [] => [[b]]
      | l :: ls => (b :: l) :: ls

/-- whether a line begins a file -/
def isBegin (l : Octets) : Bool :=
  let s := Text.ofOctets l
  match Text.cutAt ' ' s with
  | (w, some r) =>
    match Text.cutAt ' ' r with
    | (mode, some _) =>
      w == "begin".toList && !mode.isEmpty && mode.all fun c => '0' ≤ c && c ≤ '7'
    | _ => false
  | _ => false

/-- whether a line ends a file -/
def isEnd (l : Octets) : Bool :=
  let blank (b : UInt8) : Bool := b = 32 || b = 9 || b = 13 || b = 10 || b = 12
  ((l.dropWhile blank).reverse.dropWhile blank).reverse == Text.toOctets "end"

/-- the octets of a line, where a line with other characters behind its octets is cut -/
def decodeLoose? (l : Octets) : Option Octets :=
  match decodeLine? l with
  | some o => some o
  | none =>
    let count := ((l.head?.elim 0 UInt8.toNat) + 32) % 64
    decodeLine? (l.take ((count * 4 + 5) / 3))

/-- the octets of the lines before the end line -/
def body? : List Octets → Option Octets
  | [] => none
  | l :: ls =>
    if isEnd l then some []
    else do
      let o ← decodeLoose? l
      let os ← body? ls
      some (o ++ os)

/-- the octets of the first file in a text -/
def decode? (b : Octets) : Option Octets :=
  match (lines b).dropWhile fun l => !isBegin l with
  | [] => none
  | _ :: ls => body? ls

end Mailroom.Uuencode
