import Mailroom.Codec.Charset
import Mailroom.Html.Entity

/-!
# Character references

Markup can refer to a character by `&` and a number or a name.  A number may stand without its
semicolon everywhere, a name only if it is one of the older names, and in the value of an attribute
only if no letter, digit or equals sign follows.

* `Reference.ofNumber n`        the character that a number refers to;
* `Reference.take? place s`     the reference at the beginning of a text, behind the `&`;
* `Reference.resolve place s`   a text with its references resolved.

Main statement: a text without `&` is its own resolution (`resolve_of_not_mem`).
-/

namespace Mailroom.Html

/-- where a reference can stand -/
inductive Place where
  | text
  | attribute
deriving DecidableEq, Repr

namespace Reference

/-- stands for a character that cannot be -/
def replacement : Char := '\ufffd'

/-- the character of a number: the numbers of control characters from 128 on are read as places of a
code page, and what is no character is replaced -/
def ofNumber (n : Nat) : Char :=
  if n = 0 ∨ (0xd800 ≤ n ∧ n < 0xe000) ∨ 0x110000 ≤ n then replacement
  else if 0x80 ≤ n ∧ n < 0xa0 then
    (Charset.upperChar? UpperHalf.cp1252 (UInt8.ofNat n)).getD (Char.ofNat n)
  else Char.ofNat n

/-- a semicolon dropped from the front -/
def dropSemicolon : Text → Text
  | ';' :: r => r
  | s => s

/-- digits in a base at the front of a text as a number, and the rest; none if there is no digit -/
def takeNumber? (base : Nat) (digit? : Char → Option Nat) (s : Text) : Option (Nat × Text) :=
  match s.takeWhile fun c => (digit? c).isSome with
  | [] => none
  | ds =>
    some ((ds.filterMap digit?).foldl (fun a d => min 0x110000 (base * a + d)) 0, s.drop ds.length)

/-- a reference by number, behind `&#` -/
def takeNumeric? (s : Text) : Option (Text × Text) :=
  let number := match s with
    | 'x' :: r | 'X' :: r => takeNumber? 16 Text.hexDigit? r
    | s => takeNumber? 10 Text.asciiDigit? s
  number.map fun (n, rest) => ([ofNumber n], dropSemicolon rest)

/-- whether a character behind a name without a semicolon makes it part of a longer word -/
def continues (c : Char) : Bool :=
  c == '=' || Text.isAsciiLetter c || (Text.asciiDigit? c).isSome

/-- whether a name counts, given what follows it -/
def counts (place : Place) (name rest : Text) : Bool :=
  match place with
  | .text => true
  | .attribute => name.getLast? == some ';' || !(rest.head?.any continues)

/-- a reference behind its `&`: its characters and the rest of the text -/
def take? (place : Place) : Text → Option (Text × Text)
  | '#' :: r => takeNumeric? r
  | s =>
    match Entity.longest? s with
    | none => none
    | some (name, cs) =>
      let rest := s.drop name.length
      if counts place name rest then some (cs, rest) else none

/-- the references of a text resolved; every step takes a character at least -/
def resolveWithin (place : Place) : Nat → Text → Text
  | 0, s => s
  | _, [] => []
  | n + 1, c :: r =>
    if c = '&' then
      match take? place r with
      | some (cs, rest) => cs ++ resolveWithin place n rest
      | none => c :: resolveWithin place n r
    else c :: resolveWithin place n r

/-- a text with its references resolved -/
def resolve (place : Place) (s : Text) : Text := resolveWithin place s.length s

theorem resolveWithin_of_not_mem {place : Place} {s : Text} (h : '&' ∉ s) (n : Nat) :
    resolveWithin place n s = s := by
  induction s generalizing n with
  | nil => cases n <;> rfl
  | cons c r ih =>
    rw [List.mem_cons, not_or] at h
    cases n with
    | zero => rfl
    | succ n => rw [resolveWithin, if_neg (Ne.symm h.1), ih h.2]

theorem resolve_of_not_mem {place : Place} {s : Text} (h : '&' ∉ s) : resolve place s = s :=
  resolveWithin_of_not_mem h s.length

end Reference

end Mailroom.Html
