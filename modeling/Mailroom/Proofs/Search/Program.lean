import Mailroom.Filter.Evaluate
import Mailroom.Proofs.Text.Decimal

/-!
# Search programs as a server reads them

A search program is a group of keys between parentheses.  All keys of a group are asked for; `OR`
stands in front of the two keys one of which is asked for, `NOT` in front of the key that is refused,
and a key may have an argument.

    ((SUBJECT "hello") (NOT SMALLER 4096))

* `Key`            what a program asks of a message;
* `Word`, `scan`   the words of a program: parentheses, atoms and quoted texts;
* `Item`, `keys`   the items of a group, read from the left as keys with their arguments;
* `run`            words read from the right on a stack of open groups;
* `read?`          the key that a whole program stands for;
* `Key.Fulfilled`  what the key says of a message.
-/

namespace Mailroom.Search

/-- which date of a message is meant -/
inductive Dated where
  | received
  | sent
deriving DecidableEq, Repr

/-- how the day of a message lies to the day of a key -/
inductive DayOrder where
  | on
  | before
  | since
deriving DecidableEq, Repr

/-- what a search program asks of a message -/
inductive Key where
  | all
  | number (n : Nat)
  | smaller (bytes : Nat)
  | larger (bytes : Nat)
  | date (which : Dated) (order : DayOrder) (day : Date)
  | flag (name : Text) (isSet : Bool)
  | body (pattern : Text)
  | subject (pattern : Text)
  | address (field pattern : Text)
  | neg (k : Key)
  | conj (a b : Key)
  | disj (a b : Key)
deriving DecidableEq, Repr

/-! ## words -/

/-- a word of a program -/
inductive Word where
  | opening
  | closing
  | atom (s : Text)
  | quoted (s : Text)
deriving DecidableEq, Repr

/-- where the scanner stands, with what it has read of the word it stands in -/
inductive Place where
  | between
  | inAtom (past : Text)
  | inQuotes (past : Text)
  | behindSlash (past : Text)
deriving DecidableEq, Repr

/-- the words of a program, none if a quoted text is not closed -/
def scan : Place → Text → Option (List Word)
  | .between, [] => some []
  | .inAtom w, [] => some [.atom w]
  | .inQuotes _, [] | .behindSlash _, [] => none
  | .between, c :: r =>
    if c = ' ' then scan .between r
    else if c = '(' then (scan .between r).map (.opening :: ·)
    else if c = ')' then (scan .between r).map (.closing :: ·)
    else if c = '"' then scan (.inQuotes []) r
    else scan (.inAtom [c]) r
  | .inAtom w, c :: r =>
    if c = ' ' then (scan .between r).map (.atom w :: ·)
    else if c = '(' then (scan .between r).map fun ws => .atom w :: .opening :: ws
    else if c = ')' then (scan .between r).map fun ws => .atom w :: .closing :: ws
    else if c = '"' then (scan (.inQuotes []) r).map (.atom w :: ·)
    else scan (.inAtom (w ++ [c])) r
  | .inQuotes s, c :: r =>
    if c = '"' then (scan .between r).map (.quoted s :: ·)
    else if c = '\\' then scan (.behindSlash s) r
    else scan (.inQuotes (s ++ [c])) r
  | .behindSlash s, c :: r => scan (.inQuotes (s ++ [c])) r

/-! ## keys and their arguments -/

/-- an item of a group: an atom, a quoted text, or a group read already -/
inductive Item where
  | word (s : Text)
  | string (s : Text)
  | group (k : Key)
deriving DecidableEq, Repr

/-- a day of the form `15-Jan-2024` -/
def date? (s : Text) : Option Date :=
  match Text.splitOn '-' s with
  | [d, m, y] => do
    let day ← Text.natural? d
    let month ← Date.monthNames.findIdx? (· == m)
    let year ← Text.natural? y
    some ⟨year, month + 1, day⟩
  | _ => none

/-- the keys without an argument; a number is the key of the message with this number -/
def plain? (w : Text) : Option Key :=
  if w = "ALL".toList then some .all
  else if w = "SEEN".toList then some (.flag seenFlag true)
  else if w = "UNSEEN".toList then some (.flag seenFlag false)
  else if w = "FLAGGED".toList then some (.flag flaggedFlag true)
  else if w = "UNFLAGGED".toList then some (.flag flaggedFlag false)
  else (Text.natural? w).map .number

/-- the keys with a quoted text as their argument -/
def withString? (w s : Text) : Option Key :=
  if w = "BODY".toList then some (.body s)
  else if w = "SUBJECT".toList then some (.subject s)
  else if w = "FROM".toList then some (.address "From" s)
  else if w = "TO".toList then some (.address "To" s)
  else if w = "CC".toList then some (.address "Cc" s)
  else if w = "BCC".toList then some (.address "Bcc" s)
  else none

/-- the keys with an atom as their argument -/
def withWord? (w v : Text) : Option Key :=
  if w = "SMALLER".toList then (Text.natural? v).map .smaller
  else if w = "LARGER".toList then (Text.natural? v).map .larger
  else if w = "KEYWORD".toList then some (.flag v true)
  else if w = "UNKEYWORD".toList then some (.flag v false)
  else if w = "ON".toList then (date? v).map (.date .received .on)
  else if w = "BEFORE".toList then (date? v).map (.date .received .before)
  else if w = "SINCE".toList then (date? v).map (.date .received .since)
  else if w = "SENTON".toList then (date? v).map (.date .sent .on)
  else if w = "SENTBEFORE".toList then (date? v).map (.date .sent .before)
  else if w = "SENTSINCE".toList then (date? v).map (.date .sent .since)
  else none

/-- a key with its argument -/
def withArgument? (w : Text) : Item → Option Key
  | .word v => withWord? w v
  | .string s => withString? w s
  | .group _ => none

/-- the first key refused -/
def negateFirst? : List Key → Option (List Key)
  | k :: ks => some (.neg k :: ks)
  | [] => none

/-- one of the first two keys -/
def joinFirst? : List Key → Option (List Key)
  | a :: b :: ks => some (.disj a b :: ks)
  | _ => none

/-- the keys of a group from left to right -/
def keys : List Item → Option (List Key)
  | [] => some []
  | .group k :: r => (keys r).map (k :: ·)
  | .string _ :: _ => none
  | .word w :: r =>
    if w = "NOT".toList then (keys r).bind negateFirst?
    else if w = "OR".toList then (keys r).bind joinFirst?
    else
      match plain? w with
      | some k => (keys r).map (k :: ·)
      | none =>
        match r with
        | [] => none
        | i :: r' => (withArgument? w i).bind fun k => (keys r').map (k :: ·)

/-- all of some keys, of which there is at least one -/
def all? : List Key → Option Key
  | [] => none
  | [k] => some k
  | k :: ks => (all? ks).map (.conj k)

/-- the key that the items of a group stand for -/
def group? (is : List Item) : Option Key := (keys is).bind all?

/-! ## groups -/

/-- a word read in front of what is read already: the items of the groups that are open there,
innermost first -/
def step : Word → List (List Item) → Option (List (List Item))
  | .atom w, is :: open' => some ((.word w :: is) :: open')
  | .quoted s, is :: open' => some ((.string s :: is) :: open')
  | .closing, open' => some ([] :: open')
  | .opening, is :: outer :: open' => (group? is).map fun k => (.group k :: outer) :: open'
  | _, _ => none

/-- words read from the right -/
def run (ws : List Word) (open' : List (List Item)) : Option (List (List Item)) :=
  ws.foldr (fun w s => s.bind (step w)) (some open')

/-- the key of a program whose words are read: no group is left open -/
def whole? : List (List Item) → Option Key
  | [is] => group? is
  | _ => none

/-- the key that a program stands for -/
def read? (program : Text) : Option Key :=
  (scan .between program).bind fun ws => (run ws [[]]).bind whole?

theorem run_cons (w : Word) (ws : List Word) (open' : List (List Item)) :
    run (w :: ws) open' = (run ws open').bind (step w) := rfl

theorem run_append (a b : List Word) (open' : List (List Item)) :
    run (a ++ b) open' = (run b open').bind (run a) := by
  induction a with
  | nil =>
    show run b open' = (run b open').bind some
    rw [Option.bind_fun_some]
  | cons w a ih =>
    rw [List.cons_append, run_cons, ih, Option.bind_assoc]
    rfl

/-! ## what a key says -/

/-- whether a text holds a pattern, whatever the case of both -/
def Holds (s pattern : Text) : Prop := Text.lower pattern <:+: Text.lower s

/-- how two day numbers lie to each other -/
def DayOrder.Between (actual wanted : Int) : DayOrder → Prop
  | on => actual = wanted
  | before => actual < wanted
  | since => wanted ≤ actual

/-- the date of a message, if it has one -/
def Dated.of (zone : Zone) (f : Fetched) : Dated → Except Fault (Option Stamp)
  | received => .ok f.received
  | sent => f.sent zone

/-- what a key says of a message; a message without a subject has an empty one, and one without a date
lies on no day -/
def Key.Fulfilled (zone : Zone) (f : Fetched) : Key → Prop
  | all => True
  | number n => f.number = n
  | smaller n => f.size < n
  | larger n => (n : Int) < f.size
  | date which order day => ∃ s a, which.of zone f = .ok (some s) ∧ zone.toLocal s = .ok a ∧
      order.Between a.day day.toDays
  | flag name isSet => name ∈ f.flags ↔ isSet = true
  | body p => ∃ ts, f.message.texts = .ok ts ∧ ∃ s ∈ ts, Holds s p
  | subject p => ∃ s, f.message.header.field? "Subject" = .ok s ∧ Holds (s.getD []) p
  | address field p => ∃ ms, f.message.addresses field = .ok ms ∧ ∃ m ∈ ms, Holds m.address p
  | neg k => ¬k.Fulfilled zone f
  | conj a b => a.Fulfilled zone f ∧ b.Fulfilled zone f
  | disj a b => a.Fulfilled zone f ∨ b.Fulfilled zone f

end Mailroom.Search
