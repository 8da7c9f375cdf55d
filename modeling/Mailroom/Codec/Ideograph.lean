import Mailroom.Codec.BigFive
import Mailroom.Codec.Hangul
import Mailroom.Codec.Hanzi
import Mailroom.Codec.Kanji
import Mailroom.Codec.Piece

/-!
# East Asian character sets

Sets that write ASCII with one octet and their own characters with two or more.

* `IdeographSet.pair?`    the character of two octets;
* `IdeographSet.front?`   the character at the front of some octets;
* `Iso2022Jp.pieces`      the Japanese set of seven bits, which switches planes by escape sequences.
-/

namespace Mailroom

/-- a character set with characters of one octet and of more -/
inductive IdeographSet where
  | shiftJis
  | cp932
  | eucJp
  | eucKr
  | cp949
  | gb2312
  | gbk
  | gb18030
  | big5
  | cp950
deriving DecidableEq, Repr

/-! ## numbers of octet pairs -/

/-- the cell of two octets from A1 to FE in a plane of 94 rows of 94 cells -/
def squareCell? (a b : Nat) : Option Nat :=
  if 0xa1 ≤ a ∧ a ≤ 0xfe ∧ 0xa1 ≤ b ∧ b ≤ 0xfe then some (94 * (a - 0xa1) + (b - 0xa1)) else none

/-- the cell of two octets where the first stands for two rows of 94 cells -/
def shiftedCell? (a b : Nat) : Option Nat :=
  let row := if 0x81 ≤ a ∧ a ≤ 0x9f then some (a - 0x81)
    else if 0xe0 ≤ a ∧ a ≤ 0xfc then some (a - 0xc1) else none
  let column := if 0x40 ≤ b ∧ b ≤ 0x7e then some (b - 0x40)
    else if 0x80 ≤ b ∧ b ≤ 0xfc then some (b - 0x41) else none
  match row, column with
  | some r, some c => some (188 * r + c)
  | _, _ => none

/-- the cell of two octets in rows of 157 cells -/
def bigCell? (a b : Nat) : Option Nat :=
  if 0x81 ≤ a ∧ a ≤ 0xfe then
    if 0x40 ≤ b ∧ b ≤ 0x7e then some (157 * (a - 0x81) + (b - 0x40))
    else if 0xa1 ≤ b ∧ b ≤ 0xfe then some (157 * (a - 0x81) + (b - 0xa1) + 63)
    else none
  else none

/-- the column of a second octet in rows of 190 cells -/
def wideColumn? (b : Nat) : Option Nat :=
  if 0x40 ≤ b ∧ b ≤ 0x7e then some (b - 0x40)
  else if 0x80 ≤ b ∧ b ≤ 0xfe then some (b - 0x41) else none

/-- the half-width sound sign of an octet -/
def halfWidth? (a : Nat) : Option Char :=
  if 0xa1 ≤ a ∧ a ≤ 0xdf then some (Char.ofNat (0xff61 + (a - 0xa1))) else none

/-! ## characters that planes leave out -/

/-- the numbers from `n` on that a list leaves out, where the list ascends -/
def missingFrom : Nat → Nat → List Nat → List Nat
  | _, 0, _ => []
  | n, k + 1, [] => n :: missingFrom (n + 1) k []
  | n, k + 1, x :: xs =>
    if x = n then missingFrom (n + 1) k xs else n :: missingFrom (n + 1) k (x :: xs)

/-- the syllables outside the Korean plane -/
def Hangul.others : Array Char :=
  let inside := (Hangul.plane.chars.map Char.toNat).filter fun n => 0xac00 ≤ n ∧ n < 0xd7a4
  ((missingFrom 0xac00 11172 inside).map Char.ofNat).toArray

/-- the place of two octets among the syllables outside the Korean plane: 178 for each first octet up
to A0, then 84 -/
def otherSyllable? (a b : Nat) : Option Nat :=
  let column := if 0x41 ≤ b ∧ b ≤ 0x5a then some (b - 0x41)
    else if 0x61 ≤ b ∧ b ≤ 0x7a then some (b - 0x61 + 26)
    else if 0x81 ≤ b ∧ b ≤ 0xfe then some (b - 0x81 + 52) else none
  column.bind fun c =>
    if 0x81 ≤ a ∧ a ≤ 0xa0 then some (178 * (a - 0x81) + c)
    else if 0xa1 ≤ a ∧ a ≤ 0xc6 ∧ c < 84 then some (178 * 32 + 84 * (a - 0xa1) + c)
    else none

/-- the ideographs outside GB 2312 in ascending order -/
def Hanzi.others : Array Char :=
  let inside := ((Hanzi.plane.chars.map Char.toNat).filter fun n => 0x4e00 ≤ n ∧ n < 0x9fa6)
  ((missingFrom 0x4e00 20902 (inside.mergeSort fun a b => decide (a ≤ b))).map Char.ofNat).toArray

/-- the place of two octets among the ideographs outside GB 2312: 190 for each first octet up to A0,
then 96 for each from AA on -/
def otherHanzi? (a b : Nat) : Option Nat :=
  (wideColumn? b).bind fun c =>
    if 0x81 ≤ a ∧ a ≤ 0xa0 then some (190 * (a - 0x81) + c)
    else if 0xaa ≤ a ∧ a ≤ 0xfe ∧ c < 96 then some (190 * 32 + 96 * (a - 0xaa) + c)
    else none

/-- the character of a cell in stretches of characters in ascending order -/
def stretched? (stretches : List (Nat × Nat × Nat)) (n : Nat) : Option Char :=
  stretches.findSome? fun s =>
    if s.1 ≤ n ∧ n < s.1 + s.2.1 then some (Char.ofNat (s.2.2 + (n - s.1))) else none

/-- the character of a number among those with four octets -/
def fourOctets? (n : Nat) : Option Char :=
  if n < 39420 then
    (Hanzi.fourStretches.findRev? fun s => s.1 ≤ n).map fun s => Char.ofNat (s.2 + (n - s.1))
  else if 189000 ≤ n ∧ n < 189000 + 0x100000 then some (Char.ofNat (0x10000 + (n - 189000)))
  else none

namespace IdeographSet

/-! ## reading -/

/-- the character of two octets in GBK -/
def gbkPair? (a b : Nat) : Option Char :=
  let cell := if 0x81 ≤ a ∧ a ≤ 0xfe then (wideColumn? b).map (190 * (a - 0x81) + ·) else none
  (cell.bind Hanzi.symbols.char?).or
    (((squareCell? a b).bind Hanzi.plane.char?).or ((otherHanzi? a b).bind (Hanzi.others[·]?)))

/-- the character of two octets -/
def pair? (set : IdeographSet) (a b : Nat) : Option Char :=
  match set with
  | shiftJis => (shiftedCell? a b).bind Kanji.plane.char?
  | cp932 =>
    (shiftedCell? a b).bind fun n =>
      if 8836 ≤ n ∧ n < 8836 + 1880 then some (Char.ofNat (0xe000 + (n - 8836)))
      else (Kanji.vendorChange.char? n).or ((Kanji.plane.char? n).or (Kanji.vendor.char? n))
  | eucJp => (squareCell? a b).bind Kanji.plane.char?
  | eucKr => (squareCell? a b).bind Hangul.plane.char?
  | cp949 =>
    if a = 0xa4 ∧ b = 0xd4 then some '\u3164'
    else ((squareCell? a b).bind Hangul.plane.char?).or
      ((otherSyllable? a b).bind (Hangul.others[·]?))
  | gb2312 => (squareCell? a b).bind Hanzi.plane.char?
  | gbk => gbkPair? a b
  | gb18030 =>
    (gbkPair? a b).or <|
      if 0x81 ≤ a ∧ a ≤ 0xfe then
        ((wideColumn? b).map (190 * (a - 0x81) + ·)).bind (stretched? Hanzi.stretches)
      else none
  | big5 => (bigCell? a b).bind BigFive.plane.char?
  | cp950 => (bigCell? a b).bind fun n => (BigFive.vendor.char? n).or (BigFive.plane.char? n)

/-- the character of one octet above 127 -/
def single? (set : IdeographSet) (a : Nat) : Option Char :=
  match set with
  | shiftJis => halfWidth? a
  | cp932 =>
    if a = 0x80 then some '\x80'
    else if a = 0xa0 then some '\uf8f0'
    else if 0xfd ≤ a then some (Char.ofNat (0xf8f1 + (a - 0xfd)))
    else halfWidth? a
  | _ => none

/-- the character of three or four octets -/
def long? (set : IdeographSet) : Octets → Option (Char × Nat)
  | a :: b :: c :: r =>
    match set with
    | eucJp =>
      if a = 0x8f then
        ((squareCell? b.toNat c.toNat).bind Kanji.supplement.char?).map (·, 2)
      else none
    | gb18030 =>
      match r with
      | d :: _ =>
        if 0x81 ≤ a ∧ a ≤ 0xfe ∧ 0x30 ≤ b ∧ b ≤ 0x39 ∧ 0x81 ≤ c ∧ c ≤ 0xfe ∧ 0x30 ≤ d ∧ d ≤ 0x39 then
          (fourOctets? (12600 * (a.toNat - 0x81) + 1260 * (b.toNat - 0x30) + 10 * (c.toNat - 0x81)
            + (d.toNat - 0x30))).map (·, 3)
        else none
      | [] => none
    | _ => none
  | _ => none

/-- the character at the front of some octets and the number of octets behind the first that it
takes -/
def front? (set : IdeographSet) : Octets → Option (Char × Nat)
  | [] => none
  | a :: r =>
    if a < 128 then some (Char.ofNat a.toNat, 0)
    else match set.single? a.toNat with
      | some c => some (c, 0)
      | none =>
        match set.long? (a :: r) with
        | some p => some p
        | none =>
          match r with
          | b :: _ =>
            if set = eucJp ∧ a = 0x8e then (halfWidth? b.toNat).map (·, 1)
            else (set.pair? a.toNat b.toNat).map (·, 1)
          | [] => none

end IdeographSet

namespace Iso2022Jp

/-- the plane that an escape sequence selects -/
inductive Selected where
  | ascii
  | roman
  | kanji
deriving DecidableEq, Repr

/-- what an escape sequence selects, from behind the escape character, and the octets that it takes;
the second register may be set too, but nothing is read from it -/
def selection? (now : Selected) : Octets → Option (Selected × Nat)
  | 0x28 :: 0x42 :: _ => some (.ascii, 2)
  | 0x28 :: 0x4a :: _ => some (.roman, 2)
  | 0x29 :: 0x42 :: _ | 0x29 :: 0x4a :: _ => some (now, 2)
  | 0x24 :: 0x40 :: _ | 0x24 :: 0x42 :: _ => some (.kanji, 2)
  | 0x24 :: 0x28 :: 0x40 :: _ | 0x24 :: 0x28 :: 0x42 :: _ => some (.kanji, 3)
  | 0x24 :: 0x29 :: 0x40 :: _ | 0x24 :: 0x29 :: 0x42 :: _ => some (now, 3)
  | _ => none

/-- whether the octet behind the escape character opens a sequence that selects -/
def isSelecting (b : UInt8) : Bool := [0x24, 0x26, 0x28, 0x29, 0x2e].contains b

/-- whether an octet closes an escape sequence -/
def isClosing (b : UInt8) : Bool := 0x40 ≤ b && b ≤ 0x5a

/-- one character in a selection and the number of octets behind the first that it takes -/
def front? (s : Selected) : Octets → Option (Char × Nat)
  | [] => none
  | a :: r =>
    if 128 ≤ a then none
    else if a < 0x20 ∨ s = .ascii then some (Char.ofNat a.toNat, 0)
    else match s with
      | .kanji =>
        match r with
        | b :: _ =>
          if 128 ≤ b then none
          else ((squareCell? (a.toNat + 128) (b.toNat + 128)).bind Kanji.plane.char?).map (·, 1)
        | [] => none
      | _ =>
        some (if a = 0x5c then '¥' else if a = 0x7e then '\u203e' else Char.ofNat a.toNat, 0)

/-- the characters, behind some octets to leave out; an escape sequence of another kind stands for
itself -/
def piecesFrom : Nat → Bool → Selected → Octets → List Piece
  | _, _, _, [] => []
  | n + 1, f, s, _ :: r => piecesFrom n f s r
  | 0, true, s, a :: r => .char (Char.ofNat a.toNat) :: piecesFrom 0 (!isClosing a) s r
  | 0, false, s, a :: r =>
    if a = 0x1b then
      match selection? s r with
      | some (t, n) => piecesFrom n false t r
      | none =>
        if r.head?.any fun b => !isSelecting b then .char '\x1b' :: piecesFrom 0 true s r
        else .bad [a] :: piecesFrom 0 false s r
    else
      match front? s (a :: r) with
      | some (c, n) => .char c :: piecesFrom n false s r
      | none => .bad [a] :: piecesFrom 0 false s r

/-- the characters of ISO-2022-JP, which begins in ASCII -/
def pieces (b : Octets) : List Piece := piecesFrom 0 false .ascii b

end Iso2022Jp
end Mailroom
