import Mailroom.Fault
import Mailroom.Time.Format

/-!
# Filters as search programs

`Tree.criteria` writes a tree as the search program of a mail server, one key for each leaf:

    ((SUBJECT "hello") (FROM "a@b.org"))     both
    (OR (FLAGGED) (UNSEEN))                  one of them
    (NOT (BODY "spam"))                      not

Texts are quoted, dates are calendar days of the local clock, and a message number that no message
has is written `(NOT ALL)`.  Names have no search key; they are written as if they were addresses.
-/

namespace Mailroom

namespace Criteria

/-- a text in quotes, with a backslash in front of quotes and backslashes -/
def quote (s : Text) : Text :=
  '"' :: s.flatMap (fun c => if c = '"' ∨ c = '\\' then ['\\', c] else [c]) ++ ['"']

/-- the calendar day of a moment on the local clock -/
def day (zone : Zone) (m : Moment) : Except Fault Text := do
  let s ← orFault .clock (zone.localize m)
  return s.reading.date.short

/-- the text that stands for a target -/
def key : Target → Except Fault Text
  | .address a => .ok a.addrSpec
  | .personal name => .ok name
  | .stray v => .error (.shape (.target v.shown))

/-- the search keys of a date: on a day, before it, from it on -/
structure DateKeys where
  on : Text
  before : Text
  since : Text

/-- the keys for the day a message was received -/
def receivedKeys : DateKeys := ⟨"ON", "BEFORE", "SINCE"⟩

/-- the keys for the day a message was sent -/
def sentKeys : DateKeys := ⟨"SENTON", "SENTBEFORE", "SENTSINCE"⟩

/-- a date leaf: `at most` has no key of its own and becomes `before or on` -/
def date (zone : Zone) (keys : DateKeys) (cmp : Option Comparison) (m : Moment) :
    Except Fault Text := do
  let d ← day zone m
  match cmp with
  | some .equal => return "(" ++ keys.on ++ " " ++ d ++ ")"
  | some .atLeast => return "(" ++ keys.since ++ " " ++ d ++ ")"
  | some .atMost =>
    return "(OR (" ++ keys.before ++ " " ++ d ++ ") (" ++ keys.on ++ " " ++ d ++ "))"
  | none => .error (.shape .comparison)

/-- a flag leaf: two flags have keys of their own, every other is a keyword -/
def flag (name : Text) (isSet : Bool) : Text :=
  if name = seenFlag then if isSet then "(SEEN)" else "(UNSEEN)"
  else if name = flaggedFlag then if isSet then "(FLAGGED)" else "(UNFLAGGED)"
  else (if isSet then "(KEYWORD " else "(UNKEYWORD ") ++ name ++ ")"

/-- the key of a kind of recipient -/
def recipientKey : RecipientKind → Text
  | .to => "TO"
  | .cc => "CC"
  | .bcc => "BCC"

/-- a leaf as a search key -/
def leaf (zone : Zone) : Leaf → Except Fault Text
  | .body p => .ok ("(BODY " ++ quote p ++ ")")
  | .subject p => .ok ("(SUBJECT " ++ quote p ++ ")")
  | .sender t => do return "(FROM " ++ quote (← key t) ++ ")"
  | .recipient kind t => do
    return "(" ++ recipientKey kind ++ " " ++ quote (← key t) ++ ")"
  | .number n => .ok (if 0 < n then "(" ++ Text.decimalInt n ++ ")" else "(NOT ALL)")
  | .received cmp m => date zone receivedKeys cmp m
  | .sent cmp m => date zone sentKeys cmp m
  | .size (some .atLeast) n => .ok ("(NOT SMALLER " ++ Text.decimalInt n ++ ")")
  | .size (some .atMost) n => .ok ("(NOT LARGER " ++ Text.decimalInt n ++ ")")
  | .size cmp n => .error (.shape (.term (Leaf.shownSize cmp n)))
  | .flag name isSet => .ok (flag name isSet)

end Criteria

namespace Tree

/-- the search program of a tree -/
def criteria (zone : Zone) : Tree → Except Fault Text
  | conj a b => do return "(" ++ (← a.criteria zone) ++ " " ++ (← b.criteria zone) ++ ")"
  | disj a b => do return "(OR " ++ (← a.criteria zone) ++ " " ++ (← b.criteria zone) ++ ")"
  | neg l => do return "(NOT " ++ (← Criteria.leaf zone l) ++ ")"
  | leaf l => Criteria.leaf zone l
  | stray v => .error (.shape (.term v.shown))

end Tree
end Mailroom
