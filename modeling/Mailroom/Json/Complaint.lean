import Mailroom.Text.Basic

/-!
# Why a text is no JSON value

A complaint names what is wrong and the place of it, as line, column and number of the character.

* `Complaint`    what is wrong, and where;
* `Container`    a value that holds others; how many of them may be open at once is limited.
-/

namespace Mailroom.Json

/-- what is wrong with a text -/
inductive Why where
  | value
  | more
  | fieldName
  | colon
  | comma
  | controlChar
  | openText
  | escape
  | unicodeEscape
  | byteOrderMark
deriving DecidableEq, Repr

/-- the wording -/
def Why.message : Why → Text
  | value => "Expecting value"
  | more => "Extra data"
  | fieldName => "Expecting property name enclosed in double quotes"
  | colon => "Expecting ':' delimiter"
  | comma => "Expecting ',' delimiter"
  | controlChar => "Invalid control character at"
  | openText => "Unterminated string starting at"
  | escape => "Invalid \\escape"
  | unicodeEscape => "Invalid \\uXXXX escape"
  | byteOrderMark => "Unexpected UTF-8 BOM (decode using utf-8-sig)"

/-- what is wrong, and the text in front of it -/
structure Complaint where
  why : Why
  before : Text
deriving DecidableEq, Repr

/-- the wording with the place -/
def Complaint.message (c : Complaint) : Text :=
  c.why.message ++ ": line " ++ Text.decimal (c.before.count '\n' + 1) ++ " column "
    ++ Text.decimal ((c.before.reverse.takeWhile (· ≠ '\n')).length + 1) ++ " (char "
    ++ Text.decimal c.before.length ++ ")"

/-- a value that holds others -/
inductive Container where
  | list
  | object
deriving DecidableEq, Repr

/-- its name in messages -/
def Container.name : Container → Text
  | list => "array"
  | object => "object"

end Mailroom.Json
