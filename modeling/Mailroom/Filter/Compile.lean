import Mailroom.Filter.Value

/-!
# Filter expressions

An expression is one line: branches joined by `|`, terms of a branch joined by `+`, and a term
`field:value`, where a `!` in front of the value negates it.

    expression := branch ("|" branch)*
    branch     := term ("+" term)*
    term       := field ":" ["!"] value

* `resolve`    the condition of one field and value;
* `compile`    the tree of an expression, or the first fault from the left.
-/

namespace Mailroom.Filter

/-- what a field asks for, beside flags -/
inductive Field where
  | body
  | subject
  | sender
  | recipient (kind : RecipientKind)
  | number
  | received (cmp : Comparison)
  | sent (cmp : Comparison)
  | size (cmp : Comparison)
deriving DecidableEq, Repr

/-- the fields by name -/
def fieldNames : List (Text × Field) :=
  [("body", .body), ("subject", .subject), ("from", .sender), ("to", .recipient .to),
   ("cc", .recipient .cc), ("bcc", .recipient .bcc), ("number", .number),
   ("received", .received .equal), ("received_after", .received .atLeast),
   ("received_before", .received .atMost), ("sent", .sent .equal), ("sent_after", .sent .atLeast),
   ("sent_before", .sent .atMost), ("size_ge", .size .atLeast), ("size_le", .size .atMost)]

/-- the field of a name -/
def field? (name : Text) : Option Field := fieldNames.lookup name

namespace Field

/-- whether the value of a field is an address -/
def isAddress : Field → Bool
  | sender | recipient _ => true
  | _ => false

/-- the condition that a field makes of a value -/
def leaf (zone : Zone) (value : Text) : Field → Except Fault Leaf
  | body => .ok (.body value)
  | subject => .ok (.subject value)
  | sender => .ok (.sender (resolveAddress value))
  | recipient kind => .ok (.recipient kind (resolveAddress value))
  | number => do return .number (← parseNumber value)
  | received cmp => do return .received (some cmp) (.fixed (← parseTimestamp zone value))
  | sent cmp => do return .sent (some cmp) (.fixed (← parseTimestamp zone value))
  | size cmp => do return .size (some cmp) (← orFault .filter (parseSize value) : Nat)

end Field

/-- the name of the field for flags -/
def flagField : Text := "flag"

/-- the flag that a value names -/
def flagName (value : Text) : Except FilterError Text :=
  if value.isEmpty then .error ⟨.missingFlag, value⟩
  else if value = "seen".toList then .ok seenFlag
  else if value = "flagged".toList then .ok flaggedFlag
  else if isKeyword value then .ok value
  else .error ⟨.badFlag, value⟩

/-- the condition of one field and value; a flag keeps its negation in its own state -/
def resolve (zone : Zone) (name value : Text) (negated : Bool) : Except Fault Tree :=
  if name = flagField then do
    let flag ← orFault .filter (flagName value)
    return .leaf (.flag flag (!negated))
  else
    match field? name with
    | none => .error (.filter ⟨.unknownField, name⟩)
    | some f =>
      if f.isAddress && (Text.trim value).isEmpty then .error (.filter ⟨.missingAddress, value⟩)
      else do
        let l ← f.leaf zone value
        return if negated then .neg l else .leaf l

/-- the condition of a term -/
def parseTerm (zone : Zone) (token : Text) : Except Fault Tree :=
  match Text.splitOn ':' token with
  | [name, value] =>
    if name.isEmpty ∨ value.isEmpty then .error (.filter ⟨.badTerm, token⟩)
    else
      match value with
      | '!' :: v => resolve zone name v true
      | v => resolve zone name v false
  | _ => .error (.filter ⟨.badTerm, token⟩)

/-- the results of `f` in order, or the first fault; an empty piece is the fault `empty` -/
def readPieces {α : Type} (empty : Fault) (f : Text → Except Fault α) :
    List Text → Except Fault (List α)
  | [] => .ok []
  | p :: ps =>
    if p.isEmpty then .error empty
    else do
      let a ← f p
      let as ← readPieces empty f ps
      return a :: as

/-- trees joined from the left -/
def foldTrees (join : Tree → Tree → Tree) : List Tree → Tree
  | [] => .stray .nothing
  | t :: ts => ts.foldl join t

/-- the tree of a branch -/
def parseBranch (zone : Zone) (branch : Text) : Except Fault Tree := do
  let ts ← readPieces (.filter ⟨.emptyTerm, branch⟩) (parseTerm zone) (Text.splitOn '+' branch)
  return foldTrees .conj ts

/-- the tree of an expression -/
def compile (zone : Zone) (expression : Text) : Except Fault Tree :=
  if expression.isEmpty then .error (.filter ⟨.emptyFilter, expression⟩)
  else do
    let ts ← readPieces (.filter ⟨.emptyBranch, expression⟩) (parseBranch zone)
      (Text.splitOn '|' expression)
    return foldTrees .disj ts

end Mailroom.Filter
