import Mailroom.Cli.Limit
import Mailroom.Cli.Switch
import Mailroom.Client.Config

/-!
# Arguments of the command line

* `Arguments`          what the command line asks for;
* `Arguments.parse`    the arguments of a command line, or what stops the program at once;
* `Arguments.refusal?` why options do not go together.
-/

namespace Mailroom.Cli

/-- the value of an option; two dashes in its place are no value -/
abbrev Value := Option Text

/-- what the command line asks for -/
structure Arguments where
  recipient : Option Value
  cc : Value
  bcc : Value
  subject : Value
  message : Option Value
  attachment : Value
  download : Bool
  filter : Option Value
  folder : Option Value
  fromOldest : Bool
  reverse : Bool
  limit : Option (Option Nat)
  password : Option Value
deriving DecidableEq, Repr

/-- what stops the program at once -/
inductive Stop where
  | help
  | usage (e : UsageError)
deriving DecidableEq, Repr

namespace Arguments

/-- the arguments of an empty command line -/
def none : Arguments where
  recipient := .none
  cc := some []
  bcc := some []
  subject := some Config.usualSubject
  message := .none
  attachment := some []
  download := false
  filter := .none
  folder := .none
  fromOldest := false
  reverse := false
  limit := .none
  password := .none

/-- what stands for a value: two dashes for nothing -/
def valueOf (t : Text) : Value := if t = ['-', '-'] then .none else some t

/-- the limit that a value asks for -/
def limitOf (v : Value) : Except Stop (Option Nat) :=
  match v with
  | .none => .ok .none
  | some t =>
    match parseLimit t with
    | .ok n => .ok (some n)
    | .error f => .error (.usage (.badValue .limit f.message))

/-- arguments with an option taken into account -/
def take (a : Arguments) : Switch → Value → Except Stop Arguments
  | .help, _ => .error .help
  | .recipient, v => .ok { a with recipient := some v }
  | .cc, v => .ok { a with cc := v }
  | .bcc, v => .ok { a with bcc := v }
  | .subject, v => .ok { a with subject := v }
  | .message, v => .ok { a with message := some v }
  | .attachment, v => .ok { a with attachment := v }
  | .download, _ => .ok { a with download := true }
  | .filter, v => .ok { a with filter := some v }
  | .folder, v => .ok { a with folder := some v }
  | .fromOldest, _ => .ok { a with fromOldest := true }
  | .reverse, _ => .ok { a with reverse := true }
  | .limit, v => (limitOf v).map fun n => { a with limit := some n }
  | .password, v => .ok { a with password := some v }

/-- the options of a row of letters with their values: the first one has what stands behind it in the
same argument, the last one may need the argument after it, which is left to the caller -/
def row (asLetter : Bool) (s : Switch) : Text → Except UsageError (List (Switch × Option Text))
  | [] => if s.takesValue then .ok [(s, some [])] else .error (.needlessValue s [])
  | c :: rest =>
    if s.takesValue then .ok [(s, some (c :: rest))]
    else if asLetter then
      match Switch.ofLetter? c with
      | some s2 =>
        if rest.isEmpty then .ok [(s, .none), (s2, .none)]
        else (row true s2 rest).map ((s, .none) :: ·)
      | .none => .error (.needlessValue s (c :: rest))
    else .error (.needlessValue s (c :: rest))

/-- the options of an argument with the values that stand in it -/
def optionsOf (s : Switch) (asLetter : Bool) : Option Text → Except UsageError (List (Switch × Option Text))
  | .none => .ok [(s, .none)]
  | some v => row asLetter s v

/-- whether the last of some options still needs a value -/
def needsValue (os : List (Switch × Option Text)) : Option Switch :=
  match os.getLast? with
  | some (s, .none) => if s.takesValue then some s else .none
  | _ => .none

/-- arguments with options taken into account; `next` is the value of one that has none -/
def takeAll (a : Arguments) (next : Text) : List (Switch × Option Text) → Except Stop Arguments
  | [] => .ok a
  | (s, v) :: os => do takeAll (← a.take s (valueOf (v.getD next))) next os

/-- arguments with pieces taken into account, and what belongs to no option -/
def takePieces (a : Arguments) : List (Text × Piece) → Except Stop (Arguments × List Text)
  | [] => .ok (a, [])
  | (_, .switch s asLetter v) :: ps =>
    match optionsOf s asLetter v with
    | .error e => .error (.usage e)
    | .ok os =>
      match needsValue os, ps with
      | .none, ps =>
        match a.takeAll [] os with
        | .ok b => takePieces b ps
        | .error e => .error e
      | some _, (_, .plain next) :: ps =>
        match a.takeAll next os with
        | .ok b => takePieces b ps
        | .error e => .error e
      | some s, _ => .error (.usage (.missingValue s))
  | (t, _) :: ps => (takePieces a ps).map fun p => (p.1, t :: p.2)

/-- the arguments of a command line -/
def parse (texts : List Text) : Except Stop Arguments :=
  match Piece.ofTexts texts with
  | .error e => .error (.usage e)
  | .ok ps =>
    match none.takePieces ps with
    | .error e => .error e
    | .ok (a, []) => .ok a
    | .ok (_, rest) => .error (.usage (.unknown rest))

/-- why options do not go together -/
inductive Refusal where
  | readingAndSending
  | nothingAsked
deriving DecidableEq, Repr

/-- the wording -/
def Refusal.message : Refusal → Text
  | readingAndSending =>
    "Error: If 'recipient' is present, neither 'filter' nor 'limit' should be present."
  | nothingAsked =>
    "Error: If 'recipient' is not present, at least one of 'limit' or 'filter' must be present."

/-- why options do not go together: mail is either read or sent -/
def refusal? (a : Arguments) : Option Refusal :=
  let reading := a.filter.isSome || a.limit.isSome
  if a.recipient.isSome then if reading then some .readingAndSending else .none
  else if reading then .none else some .nothingAsked

end Arguments
end Mailroom.Cli
