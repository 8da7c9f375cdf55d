import Mailroom.Text.Basic

/-!
# Quoted-printable

An octet is written as itself or as `=` and two hexadecimal digits; `=` at the end of a line joins
it to the next one.

* `decode`       the octets of a body;
* `encodeBody`   a body in lines of limited length;
* `decodeWord`, `encodeWord`   the variant for words of a header, where `_` stands for a space.
-/

namespace Mailroom.QuotedPrintable

/-- the value of a hexadecimal digit -/
def hexValue? (b : UInt8) : Option Nat := Text.hexDigit? (Char.ofNat b.toNat)

/-- `=` and two upper-case hexadecimal digits -/
def escape (b : UInt8) : Octets :=
  let digit (n : Nat) : UInt8 := UInt8.ofNat (if n < 10 then 48 + n else 55 + n)
  [61, digit (b.toNat / 16), digit (b.toNat % 16)]

/-- the octets of a body; `skipping` drops the rest of a line that was joined to the next -/
def decodeFrom (skipping : Bool) : Octets → Octets
  | [] => []
  | b :: r =>
    if skipping then decodeFrom (b ≠ 10) r
    else if b = 61 then
      match r with
      | [] => []
      | 10 :: r1 => decodeFrom false r1
      | 13 :: r1 => decodeFrom true r1
      | 61 :: r1 => 61 :: decodeFrom false r1
      | [c] => 61 :: decodeFrom false [c]
      | c :: d :: r2 =>
        match hexValue? c, hexValue? d with
        | some x, some y => UInt8.ofNat (x * 16 + y) :: decodeFrom false r2
        | _, _ => 61 :: decodeFrom false (c :: d :: r2)
    else b :: decodeFrom false r

/-- the octets of a body -/
def decode (b : Octets) : Octets := decodeFrom false b

/-! ## writing bodies -/

/-- the octets of a line of a written body -/
def lineLimit : Nat := 78

/-- an octet of a line, which stands for itself if it is printable or a tab -/
def encodeOctet (b : UInt8) : Octets :=
  if b = 9 ∨ (32 ≤ b ∧ b ≤ 126 ∧ b ≠ 61) then [b] else escape b

/-- what is left of an encoded line on its last line, where a blank at the end has to be protected -/
def lastPiece (l : Octets) : Octets :=
  match l.getLast? with
  | some b =>
    if b = 32 ∨ b = 9 then
      if l.length + 2 ≤ lineLimit then l.dropLast ++ escape b
      else if l.length + 1 = lineLimit then l ++ [61, 10]
      else l.dropLast ++ [61, 10] ++ escape b
    else l
  | none => l

/-- an encoded line cut into lines of limited length, each but the last one ended by `=`; an escape is not
cut.  `pieces` bounds their number -/
def cutLine : (pieces : Nat) → Octets → Octets
  | 0, l => lastPiece l
  | n + 1, l =>
    if l.length ≤ lineLimit then lastPiece l
    else
      let cut (k : Nat) : Octets := l.take k ++ [61, 10] ++ cutLine n (l.drop k)
      if l[lineLimit - 3]? = some 61 then cut (lineLimit - 3)
      else if l[lineLimit - 2]? = some 61 then cut (lineLimit - 2)
      else cut (lineLimit - 1)

/-- lines of a body, each ended by a line feed -/
def encodeBody (ls : List Octets) : Octets :=
  ls.flatMap fun l =>
    let e := l.flatMap encodeOctet
    cutLine e.length e ++ [10]

/-! ## words of a header -/

/-- the octets of a word of a header -/
def decodeWord : Octets → Octets
  | [] => []
  | 95 :: r => 32 :: decodeWord r
  | 61 :: c :: d :: r =>
    match hexValue? c, hexValue? d with
    | some x, some y => UInt8.ofNat (x * 16 + y) :: decodeWord r
    | _, _ => 61 :: decodeWord (c :: d :: r)
  | b :: r => b :: decodeWord r

/-- an octet of a header word under one of two rules: which ASCII marks stand for themselves -/
def encodeWordOctet (marks : List Char) (b : UInt8) : Octets :=
  let c := Char.ofNat b.toNat
  if b = 32 then [95]
  else if Text.isAsciiLetter c || (Text.asciiDigit? c).isSome || marks.contains c then [b]
  else escape b

/-- a header word in quoted form -/
def encodeWord (marks : List Char) (b : Octets) : Octets := b.flatMap (encodeWordOctet marks)

/-- the marks that stand for themselves in a header word -/
def wordMarks : List Char := ['-', '!', '*', '+', '/']

end Mailroom.QuotedPrintable
