import Mailroom.Codec.Base64
import Mailroom.Codec.Charset
import Mailroom.Codec.QuotedPrintable
import Mailroom.Fault

/-!
# Writing encoded words

A text that cannot stand in a header as it is goes into encoded words.  Of the two encodings the quoted
one is taken unless the other is at least five octets shorter.

* `WordCharset`          the character set of an encoded word;
* `writeEncodedWord`     a text as one encoded word.
-/

namespace Mailroom.Header

/-- the character set of an encoded word: UTF-8, or none for octets that no character set reads -/
inductive WordCharset where
  | utf8
  | unknown
deriving DecidableEq, Repr

/-- the name of a character set -/
def WordCharset.name : WordCharset → Text
  | utf8 => "utf-8"
  | unknown => "unknown-8bit"

/-- a stretch of a text that is not ASCII, from a character on that stands for no octet -/
def findForeign (place : Nat) : Text → Option (Nat × Text)
  | [] => none
  | c :: r =>
    if !Text.isAscii c ∧ (Text.rawOctet? c).isNone then
      some (place, (c :: r).takeWhile fun c => !Text.isAscii c)
    else findForeign (place + 1) r

/-- the octets of a text in a character set -/
def WordCharset.octets (cs : WordCharset) (s : Text) : Except Fault Octets :=
  match cs with
  | utf8 => .ok (Text.toMail s)
  | unknown =>
    match findForeign 0 s with
    | some (place, stretch) => .error (.notAscii place stretch)
    | none => .ok (Text.toMail s)

/-- octets as one encoded word -/
def encodedWord (cs : WordCharset) (b : Octets) : Text :=
  let quoted := QuotedPrintable.encodeWord QuotedPrintable.wordMarks b
  let (letter, inside) :=
    if quoted.length < Base64.encodedLength b.length + 5 then ('q', quoted) else ('b', Base64.encode b)
  "=?" ++ cs.name ++ ['?', letter, '?'] ++ Text.ofOctets inside ++ "?="

/-- a text as one encoded word -/
def writeEncodedWord (cs : WordCharset) (s : Text) : Except Fault Text := do
  return encodedWord cs (← cs.octets s)

end Mailroom.Header
