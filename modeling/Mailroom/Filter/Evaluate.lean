import Mailroom.Address.Lenient
import Mailroom.Filter.Tree
import Mailroom.Imap.Fetch
import Mailroom.Message.Body

/-!
# What a filter says of a message

`Tree.holds` evaluates a tree on one fetched message.  Texts are compared in lower case, dates by the
calendar day of the local clock, and flags exactly.  A part of a tree without meaning is a fault, but
only when it is reached: the second half of a combination is looked at only where the first half does
not decide.
-/

namespace Mailroom

/-- the mailboxes of all fields of a name -/
def Message.addresses (m : Message) (name : Text) : Except Fault (List Mailbox) := do
  return Address.ofValues (← m.header.allFields name)

/-- whether a text holds a pattern, whatever the case of both -/
def holdsPattern (pattern s : Text) : Bool := Text.occursIn (Text.lower pattern) (Text.lower s)

namespace Target

/-- whether one of some mailboxes is the one asked for: its address holds the address of the target,
or its name is the name of the target -/
def isAmong (ms : List Mailbox) : Target → Except Fault Bool
  | address a => .ok (ms.any fun m => holdsPattern a.addrSpec m.address)
  | personal n =>
    .ok (ms.any fun m =>
      !m.name.isEmpty && Text.lower (Text.trim m.name) == Text.lower (Text.trim n))
  | stray v => .error (.shape (.target v.shown))

end Target

namespace Leaf

/-- the field a kind of recipient stands in -/
def recipientField : RecipientKind → Text
  | .to => "To"
  | .cc => "Cc"
  | .bcc => "Bcc"

/-- how the days of two stamps compare; without a first stamp no comparison holds -/
def daysCompare (zone : Zone) (cmp : Option Comparison) (actual : Option Stamp) (wanted : Moment) :
    Except Fault Bool := do
  match actual with
  | none => return false
  | some s =>
    let a ← orFault .clock (zone.toLocal s)
    let w ← orFault .clock (zone.localize wanted)
    match cmp with
    | some .equal => return a.day == w.day
    | some .atMost => return a.day ≤ w.day
    | some .atLeast => return w.day ≤ a.day
    | none => throw (.shape .comparison)

/-- whether a message fulfils a condition -/
def holds (zone : Zone) (f : Fetched) : Leaf → Except Fault Bool
  | body p => do return (← f.message.texts).any (holdsPattern p)
  | subject p => do return holdsPattern p ((← f.message.header.field? "Subject").getD [])
  | sender t => do t.isAmong (← f.message.addresses "From")
  | recipient k t => do t.isAmong (← f.message.addresses (recipientField k))
  | number n => .ok (f.number == n)
  | received cmp m => daysCompare zone cmp f.received m
  | sent cmp m => do daysCompare zone cmp (← f.sent zone) m
  | size (some .atLeast) n => .ok (n ≤ f.size)
  | size (some .atMost) n => .ok (f.size ≤ n)
  | size cmp n => .error (.shape (.term (shownSize cmp n)))
  | flag name isSet => .ok (f.flags.contains name == isSet)

end Leaf

namespace Tree

/-- whether a message fulfils a tree -/
def holds (zone : Zone) (f : Fetched) : Tree → Except Fault Bool
  | leaf l => l.holds zone f
  | neg l => do return !(← l.holds zone f)
  | conj a b => do if ← a.holds zone f then b.holds zone f else return false
  | disj a b => do if ← a.holds zone f then return true else b.holds zone f
  | stray v => .error (.shape (.term v.shown))

end Tree
end Mailroom
