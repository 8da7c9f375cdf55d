import Mailroom.Codec.Piece

/-!
# UTF-7

Octets below 128 stand for themselves, but a plus opens a stretch of base 64 that holds UTF-16; an
octet that is no digit closes it, and a minus that does so is left out.
-/

namespace Mailroom.Utf7

/-- the value of a base 64 digit -/
def digit? (b : UInt8) : Option Nat :=
  let n := b.toNat
  if 0x41 ≤ n ∧ n ≤ 0x5a then some (n - 0x41)
  else if 0x61 ≤ n ∧ n ≤ 0x7a then some (n - 0x61 + 26)
  else if 0x30 ≤ n ∧ n ≤ 0x39 then some (n - 0x30 + 52)
  else if n = 0x2b then some 62
  else if n = 0x2f then some 63
  else none

/-- where reading stands -/
inductive State where
  | plain
  /-- behind a plus -/
  | opened
  /-- in base 64, with bits that are not used yet and the first half of a surrogate pair -/
  | shifted (bits : Nat) (value : Nat) (high : Option Nat)
deriving Repr

/-- what a UTF-16 unit adds behind the first half of a pair, and the first half that it leaves -/
def unitPieces (high : Option Nat) (u : Nat) : List Piece × Option Nat :=
  let alone : List Piece × Option Nat :=
    if 0xd800 ≤ u ∧ u < 0xdc00 then ([], some u)
    else if 0xdc00 ≤ u ∧ u < 0xe000 then ([.bad []], none)
    else ([.char (Char.ofNat u)], none)
  match high with
  | none => alone
  | some h =>
    if 0xdc00 ≤ u ∧ u < 0xe000 then
      ([.char (Char.ofNat (0x10000 + (h - 0xd800) * 1024 + (u - 0xdc00)))], none)
    else (.bad [] :: alone.1, alone.2)

/-- one more digit in base 64 -/
def addDigit (bits value : Nat) (high : Option Nat) (d : Nat) : List Piece × State :=
  let bits := bits + 6
  let value := value * 64 + d
  if 16 ≤ bits then
    let rest := Nat.pow 2 (bits - 16)
    let out := unitPieces high (value / rest)
    (out.1, .shifted (bits - 16) (value % rest) out.2)
  else ([], .shifted bits value high)

/-- an octet that stands for itself -/
def plainPieces (b : UInt8) : List Piece :=
  if b < 128 then [.char (Char.ofNat b.toNat)] else [.bad [b]]

/-- the characters from a state on -/
def piecesFrom : State → Octets → List Piece
  | .shifted bits value high, [] =>
    if high.isSome ∨ 6 ≤ bits ∨ value ≠ 0 then [.bad []] else []
  | _, [] => []
  | .plain, b :: r =>
    if b = 0x2b then piecesFrom .opened r else plainPieces b ++ piecesFrom .plain r
  | .opened, b :: r =>
    if b = 0x2d then .char '+' :: piecesFrom .plain r
    else match digit? b with
      | some d => piecesFrom (.shifted 6 d none) r
      | none => .bad [0x2b, b] :: piecesFrom .plain r
  | .shifted bits value high, b :: r =>
    match digit? b with
    | some d => (addDigit bits value high d).1 ++ piecesFrom (addDigit bits value high d).2 r
    | none =>
      if 6 ≤ bits ∨ value ≠ 0 then .bad [b] :: piecesFrom .plain r
      else if high.isSome ∧ b < 128 then .bad [] :: plainPieces b ++ piecesFrom .plain r
      else if b = 0x2d then piecesFrom .plain r
      else plainPieces b ++ piecesFrom .plain r

/-- the characters of UTF-7 -/
def pieces (b : Octets) : List Piece := piecesFrom .plain b

end Mailroom.Utf7
