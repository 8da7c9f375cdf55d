import Mailroom.Address.Basic
import Mailroom.Text.Quoted
import Mailroom.Time.Stamp

/-!
# Filter trees

A filter is a tree of conditions on a message: leaves that test one attribute, joined by `conj` and
`disj`, with negation on leaves only.

* `Leaf`     a condition on one attribute;
* `Target`   whom an address leaf asks for: an address, or a name when no address was given;
* `Tree`     leaves and their combinations; a `Stray` stands where a hand-made tree has something
             that is no condition, so that whoever meets it can name it;
* `nodes`    all nodes, each in front of those below it.
-/

namespace Mailroom

/-- how a date or a size is compared with the one in the leaf -/
inductive Comparison where
  | equal
  | atMost
  | atLeast
deriving DecidableEq, Repr

/-- the header a recipient stands in -/
inductive RecipientKind where
  | to
  | cc
  | bcc
deriving DecidableEq, Repr

/-- something that is no part of a filter: nothing at all, or a plain text -/
inductive Stray where
  | nothing
  | text (s : Text)
deriving DecidableEq, Repr

/-- whom an address leaf asks for -/
inductive Target where
  | address (a : EmailAddress)
  | personal (name : Text)
  | stray (v : Stray)
deriving DecidableEq, Repr

/-- a condition on one attribute of a message; a comparison may be missing in a hand-made tree -/
inductive Leaf where
  | body (pattern : Text)
  | subject (pattern : Text)
  | number (n : Int)
  | received (cmp : Option Comparison) (moment : Moment)
  | sent (cmp : Option Comparison) (moment : Moment)
  | sender (target : Target)
  | recipient (kind : RecipientKind) (target : Target)
  | size (cmp : Option Comparison) (bytes : Int)
  | flag (name : Text) (isSet : Bool)
deriving DecidableEq, Repr

/-- a combination of conditions -/
inductive Tree where
  | leaf (l : Leaf)
  | neg (l : Leaf)
  | conj (a b : Tree)
  | disj (a b : Tree)
  | stray (v : Stray)
deriving DecidableEq, Repr

/-- a part of a tree that has no meaning, and where it was met -/
inductive ShapeError where
  | term (shown : Text)
  | target (shown : Text)
  | comparison
  | negated (label : Text)
deriving DecidableEq, Repr

/-- the flag of a message that was read -/
def seenFlag : Text := "\\Seen"

/-- the flag of a message that was marked -/
def flaggedFlag : Text := "\\Flagged"

namespace Stray

/-- the stray thing as messages show it -/
def shown : Stray → Text
  | nothing => "None"
  | text s => Text.quoted s

/-- the kind of the stray thing -/
def label : Stray → Text
  | nothing => "NoneType"
  | text _ => "str"

end Stray

namespace Comparison

/-- a comparison, or its absence, as messages show it -/
def shown : Option Comparison → Text
  | none => "None"
  | some equal => "<Comparison.EQ: 'eq'>"
  | some atMost => "<Comparison.LE: 'le'>"
  | some atLeast => "<Comparison.GE: 'ge'>"

end Comparison

namespace Leaf

/-- the kind of a leaf -/
def label : Leaf → Text
  | body _ => "Body"
  | subject _ => "Subject"
  | number _ => "MessageNumber"
  | received _ _ => "ReceivedDate"
  | sent _ _ => "SentDate"
  | sender _ => "From"
  | recipient _ _ => "Recipient"
  | size _ _ => "Size"
  | flag _ _ => "Flag"

/-- whether a leaf asks for a name instead of an address -/
def isPersonal : Leaf → Bool
  | sender (.personal _) => true
  | recipient _ (.personal _) => true
  | _ => false

/-- whether a leaf looks at the body of a message -/
def isBody : Leaf → Bool
  | body _ => true
  | _ => false

/-- a size leaf as messages show it -/
def shownSize (cmp : Option Comparison) (bytes : Int) : Text :=
  "Size(comparison=" ++ Comparison.shown cmp ++ ", size=" ++ Text.decimalInt bytes ++ ")"

end Leaf

namespace Tree

/-- the kind of a node -/
def label : Tree → Text
  | leaf l => l.label
  | neg _ => "Not"
  | conj _ _ => "And"
  | disj _ _ => "Or"
  | stray v => v.label

/-- all nodes, each in front of those below it, left before right -/
def nodes : Tree → List Tree
  | leaf l => [leaf l]
  | neg l => [neg l, leaf l]
  | conj a b => conj a b :: (nodes a ++ nodes b)
  | disj a b => disj a b :: (nodes a ++ nodes b)
  | stray v => [stray v]

/-- all leaves from left to right -/
def leaves : Tree → List Leaf
  | leaf l => [l]
  | neg l => [l]
  | conj a b => leaves a ++ leaves b
  | disj a b => leaves a ++ leaves b
  | stray _ => []

/-- the negation of a leaf; nothing else can be negated -/
def negate? : Tree → Except ShapeError Tree
  | leaf l => .ok (neg l)
  | t => .error (.negated t.label)

/-- whether some leaf asks for a name instead of an address -/
def hasPersonal (t : Tree) : Bool := t.leaves.any Leaf.isPersonal

/-- whether some leaf looks at the body of a message -/
def needsBody (t : Tree) : Bool := t.leaves.any Leaf.isBody

/-- the leaves are the nodes that are leaves -/
theorem leaves_eq_filterMap_nodes (t : Tree) :
    t.leaves = t.nodes.filterMap fun n => match n with
      | leaf l => some l
      | _ => none := by
  induction t with
  | leaf l => rfl
  | neg l => rfl
  | conj a b iha ihb => simp [leaves, nodes, iha, ihb]
  | disj a b iha ihb => simp [leaves, nodes, iha, ihb]
  | stray v => rfl

end Tree

namespace ShapeError

/-- the wording of a shape error -/
def message : ShapeError → Text
  | term s => "Unknown term: " ++ s
  | target s => "Unknown address target: " ++ s
  | comparison => "Unknown comparison: None"
  | negated label => "Not wraps leaf terms only, got " ++ label

end ShapeError
end Mailroom
