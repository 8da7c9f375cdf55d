import Mailroom.Codec.Charset
import Mailroom.Fault
import Mailroom.Text.Integer

/-!
# Whole numbers from outside

Numbers that servers, users and the environment send as text.  A text that is no number is shown in
the message, cut after 200 characters.
-/

namespace Mailroom.WholeNumber

/-- the number that a text stands for, or a fault that shows the text as `shown` -/
def read (shown s : Text) : Except Fault Int :=
  match Text.readInteger maxDigits s with
  | .ok n => .ok n
  | .error .notInteger => .error (.notInteger (shown.take 200))
  | .error (.tooLong n) => .error (.tooManyDigits n)

/-- the number that a text stands for -/
def ofText (s : Text) : Except Fault Int := read (Text.quoted s) s

/-- the number that octets stand for -/
def ofOctets (b : Octets) : Except Fault Int := read (Text.quotedOctets b) (Text.ofMail b)

end Mailroom.WholeNumber
