import Mailroom.Codec.Charset
import Mailroom.Codec.QuotedPrintable
import Mailroom.Text.Quoted

/-!
# Percent encoding

Octets of a text as ASCII: some characters stand for themselves, every other octet is a percent sign
and two hexadecimal digits.

* `encode`         letters, digits and the four marks `-`, `.`, `_` and `~` stand for themselves;
* `encodeExcept`   the characters of a given kind do;
* `decode`         octets with each `%xx` as the octet it stands for.
-/

namespace Mailroom.Percent

/-- whether a character stands for itself -/
def isPlain (c : Char) : Bool :=
  Text.isAsciiLetter c || (Text.asciiDigit? c).isSome || ['-', '.', '_', '~'].contains c

/-- an octet encoded, unless its character stands for itself -/
def encodeOctet (isPlain : Char → Bool) (b : UInt8) : Text :=
  let c := Char.ofNat b.toNat
  if isPlain c then [c] else '%' :: (Text.hex 2 b.toNat).map Char.toUpper

/-- the octets of a text encoded, except those whose characters stand for themselves -/
def encodeExcept (isPlain : Char → Bool) (s : Text) : Text :=
  (Text.toMail s).flatMap (encodeOctet isPlain)

/-- the octets of a text encoded -/
def encode (s : Text) : Text := encodeExcept isPlain s

/-- octets with each `%xx` as the octet it stands for -/
def decode : Octets → Octets
  | [] => []
  | 37 :: a :: b :: r =>
    match QuotedPrintable.hexValue? a, QuotedPrintable.hexValue? b with
    | some x, some y => UInt8.ofNat (x * 16 + y) :: decode r
    | _, _ => 37 :: decode (a :: b :: r)
  | a :: r => a :: decode r

/-- a text with each `%xx` as the character of that number -/
def decodeChars : Text → Text
  | [] => []
  | '%' :: a :: b :: r =>
    match Text.hexDigit? a, Text.hexDigit? b with
    | some x, some y => Char.ofNat (x * 16 + y) :: decodeChars r
    | _, _ => '%' :: decodeChars (a :: b :: r)
  | a :: r => a :: decodeChars r

end Mailroom.Percent
