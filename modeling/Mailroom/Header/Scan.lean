import Mailroom.Header.Token

/-!
# Reading with the rest in hand

A `Scan` takes the characters it needs from the front of a header value and leaves the rest.  It
stops with `mismatch` where the rest does not have the form it reads, and other forms are then tried
from the same place; the other two stops end the reading of the value.
-/

namespace Mailroom.Header

/-- why the reading of a form stopped -/
inductive Stop where
  /-- the rest does not have the form -/
  | mismatch
  /-- the value ends where a character has to be looked at -/
  | pastEnd
  /-- a form has no part where one has to be looked at -/
  | noPart
deriving DecidableEq, Repr

/-- the reading of a form from the front of the rest -/
abbrev Scan (α : Type) := StateT Text (Except Stop) α

namespace Scan

/-- the rest -/
def rest : Scan Text := get

/-- the next character, if there is one -/
def next? : Scan (Option Char) := do return (← get).head?

/-- the next character, which has to be there -/
def next : Scan Char := do
  match ← get with
  | c :: _ => return c
  | [] => throw .pastEnd

/-- the next character dropped -/
def skip : Scan Unit := modify List.tail

/-- no reading -/
def mismatch {α : Type} : Scan α := throw .mismatch

/-- whether the next character is of a kind -/
def sees (p : Char → Bool) : Scan Bool := do return (← get).head?.any p

/-- whether nothing is left -/
def atEnd : Scan Bool := do return (← get).isEmpty

/-- the first reading, or the second from the same place where the first does not fit -/
def orElse {α : Type} (p q : Scan α) : Scan α := fun s =>
  match p s with
  | .error .mismatch => q s
  | r => r

/-- a step repeated as long as the rest allows, at most `fuel` times -/
def repeatUpTo {σ : Type} (goesOn : Text → Bool) (step : σ → Scan σ) : Nat → σ → Scan σ
  | 0, st => pure st
  | n + 1, st => do
    if goesOn (← get) then repeatUpTo goesOn step n (← step st) else return st

/-- a step repeated as long as the rest allows; each step takes at least one character -/
def repeatWhile {σ : Type} (goesOn : Text → Bool) (step : σ → Scan σ) (st : σ) : Scan σ := do
  repeatUpTo goesOn step (← get).length st

/-- the characters of a kind at the front, at least one -/
def run (p : Char → Bool) : Scan Text := do
  let s ← get
  match s.takeWhile p with
  | [] => mismatch
  | w =>
    set (s.dropWhile p)
    return w

end Scan
end Mailroom.Header
