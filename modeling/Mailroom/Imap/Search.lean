import Mailroom.Filter.Criteria
import Mailroom.Filter.Evaluate
import Mailroom.Imap.Connection

/-!
# The messages a filter finds

`Tree.find` lists the numbers of the messages that fulfil a filter, ascending.  The server searches
wherever it can; a filter that asks for a name, and one whose text the server cannot read, are
evaluated message by message.
-/

namespace Mailroom

open Program

namespace Tree

/-- numbers in ascending order -/
def sorted (ns : List Int) : List Int := ns.mergeSort fun a b => a ≤ b

/-- the numbers of the messages among some that fulfil a tree -/
def numbersAmong (zone : Zone) (t : Tree) (fs : List Fetched) : Except Fault (List Int) := do
  let kept ← fs.filterM fun f => t.holds zone f
  return sorted (kept.map Fetched.number)

/-- the messages that fulfil a tree, evaluated one by one; bodies are fetched only for a tree that looks
at them -/
def findByFetching (t : Tree) : Program (List Int) := do
  let items := if t.needsBody then Imap.wholeItems else Imap.headerItems
  let fs ← Imap.fetchMessages "1:*" items
  settle (t.numbersAmong (← session).zone fs)

/-- the numbers that an answer to a search lists -/
def numbersOf (criteria : Text) (r : Reply) : Except Fault (List Int) := do
  if r.status ≠ "OK".toList then
    throw (.imap ("SEARCH " ++ criteria ++ " failed: " ++ Imap.showData r.data))
  return sorted (← (← Imap.firstWords r).mapM WholeNumber.ofOctets)

/-- the messages that fulfil a tree -/
def find (t : Tree) : Program (List Int) := do
  let criteria ← settle (t.criteria (← session).zone)
  if t.hasPersonal then t.findByFetching
  else if criteria.all Text.isAscii then
    let r ← Imap.search none (.text criteria)
    settle (numbersOf criteria r)
  else
    let r ← Imap.search (some "UTF-8") (.octets (Utf8.encode criteria))
    if r.status = "NO".toList then t.findByFetching else settle (numbersOf criteria r)

end Tree
end Mailroom
