import Mailroom.Codec.Percent
import Mailroom.Header.Phrase
import Mailroom.Text.Digit

/-!
# Parameters

Behind a media type or a disposition stand parameters `; name=value`.  A value may be cut into numbered
sections (`name*0=…; name*1=…`) and may be written in extended form (`name*=charset'language'%C3%A9`).

* `Section`            one section of a parameter as it is written;
* `Scan.sections`      the sections of a value, to its end;
* `joinSections`       names and whole values, in the order in which the names come first.

What does not have the form of a parameter is passed over up to the next semicolon.
-/

namespace Mailroom.Header

/-- one section of a parameter -/
structure Section where
  name : Text
  /-- the number of the section, 0 if it has none -/
  number : Nat
  /-- whether its value is in extended form -/
  extended : Bool
  /-- the character set of an extended value -/
  charset : Text
  value : Text
deriving DecidableEq, Repr

/-- the character set of values that name none -/
def plainCharset : Text := "us-ascii"

namespace Scan

/-- a run up to one of `ends`, with the fillers around it -/
def paddedRun (ends : Char → Bool) : Scan Token := do
  let front ← filler?
  let w ← run fun c => !ends c
  let back ← filler?
  return .form .word (front ++ .leaf .plain w :: back)

/-- the run or the quoted text in a value, without the fillers around it -/
def bareValue (t : Token) : Text :=
  match t.parts.find? fun p => !p.isForm .filler with
  | some p => p.value
  | none => []

/-- the value of a parameter -/
def parameterValue : Scan Token := do
  if ← atEnd then mismatch
  let front ← filler?
  if ← atEnd then mismatch
  let t ← if ← sees (· == '"') then quotedString else paddedRun endsExtended
  return t.prepend front

/-- the number of a section behind its asterisk -/
def sectionNumber : Scan Nat := do
  if !(← sees (· == '*')) then mismatch
  skip
  let ds ← run Text.isDigit
  return Text.digitsValue (ds.filterMap Text.digit?)

/-- the number of a section and whether its value is in extended form -/
def sectionMarks : Scan (Nat × Bool) := do
  if ← sees (· == '*') then
    let number ← orElse sectionNumber (pure 0)
    if ← atEnd then mismatch
    if ← sees (· == '*') then
      skip
      return (number, true)
    else return (number, false)
  else return (0, false)

/-- whether the text inside quotes is a value in extended form all the same; the first section has
to begin with a run that could be a character set -/
def quotedExtended (number : Nat) (s : Text) : Scan Bool := do
  if number = 0 then
    if s.head? = some '\'' then return true
    if s.head?.all endsAttribute then mismatch
    return (s.dropWhile fun c => !endsAttribute c).head? = some '\''
  else return !s.isEmpty && s.all fun c => !endsExtended c

/-- the value between quotes as it stands: runs of blanks are single spaces and backslashes take the
meaning from the character behind them -/
def quotedRest : Scan Text := do
  let parts ← repeatWhile (fun s => !s.isEmpty)
    (fun done => do
      if ← sees isSpace then return (← space) :: done
      else if ← sees (· == '"') then
        skip
        return Token.markChar '"' :: done
      else return (← quotedRun) :: done) []
  if parts.isEmpty then throw .noPart
  return Token.valueAll parts.reverse

/-- one section -/
def piece : Scan Section := do
  let name := Text.trim (← paddedRun endsAttribute).value
  if (← atEnd) || (← sees (· == ';')) then return ⟨name, 0, false, plainCharset, []⟩
  let (number, extended) ← sectionMarks
  if (← next) != '=' then mismatch
  skip
  let _ ← filler?
  let outer? ← if extended && (← sees (· == '"')) then do
      let all ← get
      let q ← quotedString
      let outer ← get
      if ← quotedExtended number (bareValue q) then
        set (bareValue q)
        pure (some outer)
      else
        set all
        pure none
    else pure none
  let first? ← if ← sees (· == '\'') then pure none else do pure (some (← parameterValue))
  let plain := first?.elim [] bareValue
  if (!extended || 0 < number) && !(← sees (· == '\'')) then
    if let some outer := outer? then set outer
    return ⟨name, number, extended, plainCharset, plain⟩
  if ← atEnd then
    if let some outer := outer? then set outer
    return ⟨name, number, extended, plainCharset, plain⟩
  let charset := first?.elim plainCharset Token.value
  if (← next) != '\'' then mismatch
  skip
  if !(← atEnd) && !(← sees (· == '\'')) then
    let _ ← run fun c => !endsAttribute c
    if !(← sees (· == '\'')) then mismatch
  skip
  match outer? with
  | some outer =>
    let v ← quotedRest
    set outer
    return ⟨name, number, extended, charset, v⟩
  | none => return ⟨name, number, extended, charset, bareValue (← parameterValue)⟩

/-- the sections of a value, to its end -/
def sections : Scan (List Section) := do
  let ends (c : Char) : Bool := c == ';'
  let found ← repeatWhile (fun s => !s.isEmpty)
    (fun done => do
      let done ← orElse (do return (← piece) :: done) (do
        let _ ← filler?
        let _ ← junk ends
        return done)
      let _ ← junk ends
      skip
      return done) []
  return found.reverse

end Scan

/-! ## whole values -/

/-- a value in extended form as characters of a named set -/
def extendedValue (charset value : Text) : Text :=
  if value.any fun c => (Text.rawOctet? c).isSome then Percent.decodeChars value
  else ((Charset.named? charset).getD .ascii).keeping (Percent.decode (Utf8.encode value))

/-- sections in the order of their numbers, those of one number in their own order -/
def sortSections (ss : List Section) : List Section :=
  ss.mergeSort fun a b => a.number ≤ b.number

/-- the sections that count: their numbers are 0, 1, 2, … unless they are in extended form -/
def countedSections : Nat → List Section → List Section
  | _, [] => []
  | n, s :: ss =>
    if s.number ≠ n ∧ !s.extended then countedSections n ss else s :: countedSections (n + 1) ss

/-- the whole value of the sections of one name -/
def wholeValue (ss : List Section) : Text :=
  match sortSections ss with
  | [] => []
  | first :: more =>
    let ss :=
      match more with
      | second :: _ => if !first.extended ∧ second.number = 0 then [first] else first :: more
      | [] => [first]
    (countedSections 0 ss).flatMap fun s =>
      if s.extended then extendedValue first.charset s.value else s.value

/-- names and whole values -/
def joinSections (ss : List Section) : List (Text × Text) :=
  (ss.map Section.name).eraseDups.map fun n => (n, wholeValue (ss.filter (·.name == n)))

namespace Scan

/-- the parameters behind a semicolon, to the end of the value -/
def parameters : Scan Token := do return .parameters (joinSections (← sections))

end Scan
end Mailroom.Header
