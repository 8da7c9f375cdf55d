import Mailroom.Filter.Size

/-!
# Small written forms

The forms in which the listing of a message shows sizes, addresses and the names of its lines.
-/

namespace Mailroom.View

/-- a rule between messages -/
def rule : Text := List.replicate 82 '-'

/-- switches an underline on -/
def underline : Text := "\x1b[4m"

/-- switches red on -/
def red : Text := "\x1b[31m"

/-- switches colours and underlines off -/
def plain : Text := "\x1b[0m"

/-- a fraction, in steps, with one decimal place; a tie goes to the even digit -/
def oneDecimal (steps : Nat) : Text :=
  let tenths := Binary.roundDiv (steps * 10) Binary.unit
  Text.decimal (tenths / 10) ++ "." ++ Text.decimal (tenths % 10)

/-- a count of bytes in megabytes from one megabyte on, in kilobytes below; one too large to be
divided is a fault -/
def size (bytes : Int) : Except Fault Text :=
  let (den, unit) : Nat × Text := if 1048576 ≤ bytes then (1048576, " MB") else (1024, " kB")
  let steps := Binary.nearest bytes.natAbs den
  if Binary.ceiling ≤ steps then .error .tooLarge
  else .ok ((if bytes < 0 then ['-'] else []) ++ oneDecimal steps ++ unit)

/-- mailboxes beside each other, names in quotes -/
def addresses (ms : List Mailbox) : Text :=
  [' '].intercalate <| ms.map fun m =>
    if m.name.isEmpty then "<" ++ m.address ++ ">"
    else "<\"" ++ m.name ++ "\" <" ++ m.address ++ ">>"

/-- the name of a line, underlined and set to the right -/
def label (name : Text) : Text := Text.padLeft 16 ' ' (underline ++ name ++ plain)

/-- a remark in brackets, in red -/
def warning (s : Text) : Text := red ++ "[" ++ s ++ "]" ++ plain

end Mailroom.View
