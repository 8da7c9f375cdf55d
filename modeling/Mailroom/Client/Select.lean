import Mailroom.Imap.Search

/-!
# Which messages are shown

`select` lists the numbers of the messages to show, ascending: all messages of the folder, or those that
a filter finds, and of these the newest or the oldest up to a limit.
-/

namespace Mailroom.Client

open Program

/-- which messages are chosen, and how many there are to choose from -/
structure Selection where
  numbers : List Int
  matched : Nat
deriving DecidableEq, Repr

/-- the first or the last elements of a list, up to a limit; for a negative limit, the first elements
less that many, or none at all -/
def limited {α : Type} (limit : Int) (oldest : Bool) (xs : List α) : List α :=
  if oldest then xs.take (if limit < 0 then (xs.length + limit).toNat else limit.toNat)
  else if limit < 0 then [] else xs.drop (xs.length - limit.toNat)

/-- the numbers of all messages of a folder -/
def allNumbers (count : Int) : List Int :=
  (List.range count.toNat).map fun (i : Nat) => (i : Int) + 1

/-- what is chosen of these numbers, up to a limit if there is one -/
def chosenFrom (numbers : List Int) (limit : Option Int) (oldest : Bool) : Selection :=
  match limit with
  | some n => ⟨if n < numbers.length then limited n oldest numbers else numbers, numbers.length⟩
  | none => ⟨numbers, numbers.length⟩

/-- the messages to show of a folder with `count` messages -/
def select (count : Int) (tree : Option Tree) (limit : Option Int) (oldest : Bool) :
    Program Selection := do
  if count = 0 then return ⟨[], 0⟩
  let numbers ← match tree with
    | none => pure (allNumbers count)
    | some t => t.find
  return chosenFrom numbers limit oldest

end Mailroom.Client
