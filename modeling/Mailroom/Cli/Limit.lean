import Mailroom.Fault
import Mailroom.Text.Case
import Mailroom.Text.Integer

/-!
# The argument of the limit option

A count of messages, or `all`, which is read as 0; a negative count is read as 0 too.
-/

namespace Mailroom.Cli

/-- the count that an argument of the limit option gives -/
def parseLimit (value : Text) : Except Fault Nat :=
  if Text.lower value = "all".toList then .ok 0
  else
    match Text.readInteger maxDigits value with
    | .ok n => .ok n.toNat
    | .error _ => .error (.badLimit value)

end Mailroom.Cli
