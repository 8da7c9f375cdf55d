import Mailroom.Message.Basic

/-!
# Reading a message from its octets

The lines of a message are those of its header, a blank line, and the body.  What the body is depends
on the media type of the header: the parts between boundary lines, one message, blocks of fields with
blank lines between them, or octets that are kept as they are.

* `Lines.ofOctets`    lines with their line breaks;
* `splitHeader`       the fields in front, and the lines of the body;
* `partLines?`        the lines of each part of a body in several parts;
* `Message.read`      the message.

A body whose boundary is not declared or does not occur is kept as octets.  The line break in front of
a boundary belongs to the boundary.
-/

namespace Mailroom

namespace Lines

/-- lines with their line breaks: CR LF, CR or LF -/
def ofOctets : Octets → List Octets
  | [] => []
  | 13 :: 10 :: r => [13, 10] :: ofOctets r
  | b :: r =>
    if b = 13 ∨ b = 10 then [b] :: ofOctets r
    else
      match ofOctets r with
      | [] => [[b]]
      | l :: ls => (b :: l) :: ls

/-- whether a line begins with its line break -/
def isBlank (l : Octets) : Bool := l.head? == some 13 || l.head? == some 10

/-- octets without a line break at their end -/
def chop (b : Octets) : Octets :=
  match b.reverse with
  | 10 :: 13 :: r => r.reverse
  | 10 :: r => r.reverse
  | 13 :: r => r.reverse
  | _ => b

end Lines

namespace Message

/-! ## the header -/

/-- whether a line belongs to a header: a name and a colon, a continuation, or an envelope line -/
def isHeaderLine (l : Octets) : Bool :=
  l.head? == some 32 || l.head? == some 9 || isEnvelope l
    || (l.dropWhile fun b => 33 ≤ b ∧ b ≤ 126 ∧ b ≠ 58).head? == some 58
where
  /-- whether a line begins as an envelope line does -/
  isEnvelope (l : Octets) : Bool := (Text.toOctets "From ").isPrefixOf l

/-- whether a line continues the one before it -/
def isContinuation (l : Octets) : Bool := l.head? == some 32 || l.head? == some 9

/-- the value of a field on one line -/
def unfold (value : Text) : Text := value.filter fun c => c != '\r' && c != '\n'

/-- the field that begins with a line, and its continuations -/
def fieldOf (l : Octets) (more : List Octets) : RawField :=
  let name := l.takeWhile (· ≠ 58)
  let value := (l.drop (name.length + 1)).dropWhile fun b => b = 32 ∨ b = 9
  ⟨Text.ofMail name, unfold (Text.ofMail (value ++ more.flatten))⟩

/-- the fields of header lines; envelope lines, lines without a name and their continuations are
passed over -/
def fieldsOf : List Octets → List RawField
  | [] => []
  | l :: ls =>
    if isContinuation l || isHeaderLine.isEnvelope l || l.head? == some 58 then fieldsOf ls
    else fieldOf l (ls.takeWhile isContinuation) :: fieldsOf ls

/-- the fields of the lines in front of a body; an envelope line at their end is the first line of the
body -/
def divide (front body : List Octets) : List RawField × List Octets :=
  match front.getLast? with
  | some l =>
    if isHeaderLine.isEnvelope l ∧ 1 < front.length then (fieldsOf front.dropLast, l :: body)
    else (fieldsOf front, body)
  | none => ([], body)

/-- the fields in front of a message, and the lines of its body; a blank line between the two belongs to
neither -/
def splitHeader (ls : List Octets) : List RawField × List Octets :=
  let rest := ls.dropWhile isHeaderLine
  divide (ls.takeWhile isHeaderLine) (if rest.head?.any Lines.isBlank then rest.tail else rest)

/-! ## the body -/

/-- what a line is to a body in several parts -/
inductive BoundaryLine where
  | opening
  | closing
deriving DecidableEq, Repr

/-- two hyphens and the boundary, two more hyphens on the last such line, and blanks -/
def boundaryLine? (boundary : Text) (l : Octets) : Option BoundaryLine :=
  let isEnd (s : Text) : Bool :=
    let t := s.dropWhile fun c => c == ' ' || c == '\t'
    t.isEmpty || t == ['\n'] || t == ['\r'] || t == ['\r', '\n']
  match Text.after? ("--" ++ boundary) (Text.ofMail l) with
  | none => none
  | some r =>
    match Text.after? "--" r with
    | some r' => if isEnd r' then some .closing else if isEnd r then some .opening else none
    | none => if isEnd r then some .opening else none

/-- the parts behind an opening boundary line, up to a closing one; `fuel` bounds their number -/
def partsFrom (boundary : Text) : Nat → List Octets → List (List Octets)
  | 0, _ => []
  | n + 1, ls =>
    let isBoundary (l : Octets) : Bool := (boundaryLine? boundary l).isSome
    let ls := ls.dropWhile isBoundary
    let part := ls.takeWhile fun l => !isBoundary l
    match ls.dropWhile fun l => !isBoundary l with
    | [] => [part]
    | l :: rest =>
      if boundaryLine? boundary l = some .closing then [part] else part :: partsFrom boundary n rest

/-- the lines of each part; none if no opening boundary line comes first -/
def partLines? (boundary : Text) (ls : List Octets) : Option (List (List Octets)) :=
  match ls.dropWhile fun l => (boundaryLine? boundary l).isNone with
  | [] => none
  | l :: rest =>
    if boundaryLine? boundary l = some .opening then some (partsFrom boundary ls.length rest)
    else none

/-- blocks of lines with blank lines between them; `fuel` bounds their number -/
def blocks : Nat → List Octets → List (List Octets)
  | 0, _ => []
  | n + 1, ls =>
    let block := ls.takeWhile fun l => !Lines.isBlank l
    match (ls.dropWhile fun l => !Lines.isBlank l).tail with
    | [] => [block]
    | rest => block :: blocks n rest

mutual

/-- a message without the line break at its end; one in several parts keeps it -/
def chop : Message → Except Fault Message
  | leaf h b => do
    if MessageHeader.mainType (← h.contentType) = "multipart".toList then return leaf h b
    else return leaf h (Lines.chop b)
  | container h ps => do
    if MessageHeader.mainType (← h.contentType) = "multipart".toList then return container h ps
    else return container h (← chopLast ps)

/-- messages, the last one without the line break at its end -/
def chopLast : List Message → Except Fault (List Message)
  | [] => .ok []
  | [m] => do return [← chop m]
  | m :: ms => do return m :: (← chopLast ms)

end

/-- the message of some lines, at most `fuel` levels deep; where no part begins, the text before a
closing boundary line is the body -/
def ofLines : Nat → Bool → List Octets → Except Fault Message
  | 0, inDigest, _ => .ok (leaf ⟨[], inDigest⟩ [])
  | n + 1, inDigest, ls => do
    let (fields, body) := splitHeader ls
    let h : MessageHeader := ⟨fields, inDigest⟩
    let type ← h.contentType
    if type = "message/delivery-status".toList then
      return container h (← (blocks (body.length + 1) body).mapM (ofLines n false))
    else if MessageHeader.mainType type = "message".toList then
      return container h [← ofLines n false body]
    else if MessageHeader.mainType type = "multipart".toList then
      match ← h.boundary? with
      | none => return leaf h body.flatten
      | some b =>
        match partLines? b body with
        | none => return leaf h (body.takeWhile fun l => (boundaryLine? b l).isNone).flatten
        | some parts =>
          let digest := type = "multipart/digest".toList
          return container h (← parts.mapM fun p => do chop (← ofLines n digest p))
    else return leaf h body.flatten

/-- the message of some octets -/
def read (raw : Octets) : Except Fault Message :=
  let ls := Lines.ofOctets raw
  ofLines (ls.length + 1) false ls

end Message
end Mailroom
