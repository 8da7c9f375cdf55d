import Mailroom.Fault
import Mailroom.Time.Format

/-!
# Filters in words

`describe` puts a tree into the sentence that is shown before a search:

    ((subject contains "hello" and sender is "a@b.org") or size less than "4096" bytes)

Dates are shown on the local clock.  A part without meaning stops the description.
-/

namespace Mailroom

namespace Target

/-- the address with its name as it was typed, or the name -/
def describe : Target → Except Fault Text
  | address a =>
    .ok (if a.displayName.isEmpty then a.addrSpec else a.displayName ++ " <" ++ a.addrSpec ++ ">")
  | personal name => .ok name
  | stray v => .error (.shape (.target v.shown))

end Target

/-- a text in double quotes -/
def inQuotes (s : Text) : Text := '"' :: s ++ ['"']

/-- how a comparison of dates is put -/
def Comparison.words : Comparison → Text
  | .equal => " date is "
  | .atMost => " before date "
  | .atLeast => " after date "

namespace RecipientKind

/-- how a kind of recipient is put -/
def words : RecipientKind → Text
  | .to => "recipient is "
  | .cc => "cc sent to "
  | .bcc => "bcc sent to "

end RecipientKind

namespace Leaf

/-- a date leaf in words; `what` says which date -/
def describeDate (zone : Zone) (what : Text) (cmp : Option Comparison) (moment : Moment) :
    Except Fault Text :=
  match cmp with
  | none => .error (.shape .comparison)
  | some c => do
    let date ← orFault .clock (zone.spoken moment)
    return what ++ c.words ++ inQuotes date

/-- a leaf in words -/
def describe (zone : Zone) : Leaf → Except Fault Text
  | subject p => .ok ("subject contains " ++ inQuotes p)
  | body p => .ok ("body contains " ++ inQuotes p)
  | sender t => do return "sender is " ++ inQuotes (← t.describe)
  | number n => .ok ("message number is " ++ inQuotes (Text.decimalInt n))
  | received cmp moment => describeDate zone "received" cmp moment
  | sent cmp moment => describeDate zone "sent" cmp moment
  | recipient kind t => do return kind.words ++ inQuotes (← t.describe)
  | size (some .atLeast) n => .ok ("size greater than " ++ inQuotes (Text.decimalInt n) ++ " bytes")
  | size (some .atMost) n => .ok ("size less than " ++ inQuotes (Text.decimalInt n) ++ " bytes")
  | size cmp n => .error (.shape (.term (shownSize cmp n)))
  | flag name isSet =>
    .ok ("flag " ++ inQuotes (name.filter (· ≠ '\\')) ++ if isSet then " set" else " not set")

end Leaf

namespace Tree

/-- a tree in words -/
def describe (zone : Zone) : Tree → Except Fault Text
  | conj a b => do return "(" ++ (← a.describe zone) ++ " and " ++ (← b.describe zone) ++ ")"
  | disj a b => do return "(" ++ (← a.describe zone) ++ " or " ++ (← b.describe zone) ++ ")"
  | neg l => do return "not " ++ (← l.describe zone)
  | leaf l => l.describe zone
  | stray v => .error (.shape (.term v.shown))

end Tree
end Mailroom
