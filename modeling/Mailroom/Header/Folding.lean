import Mailroom.Codec.Percent
import Mailroom.Header.EncodedWord
import Mailroom.Header.Phrase

/-!
# Folding

A header field is written in lines of at most 78 characters as far as its tree allows.  A part that does
not fit goes to the next line if it begins with a blank, else it is taken apart; a run of characters that
fits nowhere goes into encoded words, unless it stands in an address.

* `Token.mayEncode`   whether encoded words may stand in a part;
* `Token.mayBreak`    whether a line may be broken in front of a part;
* `fold`              the lines of a field.
-/

namespace Mailroom.Header

/-- the characters of a line -/
def lineLimit : Nat := 78

namespace Form

/-- forms in which no encoded word may stand -/
def forbidsEncoding : Form → Bool
  | domain | addrSpec | looseLocalPart | localPart | domainLiteral | mediaType | disposition
  | transferEncoding | messageId | identifier | literal | label => true
  | _ => false

end Form

namespace Token

mutual

/-- whether encoded words may stand in a part -/
def mayEncode : Token → Bool
  | leaf .comma _ => false
  | leaf _ _ => true
  | node .dotAtomText _ _ => true
  | node f _ ps => !f.forbidsEncoding && mayEncodeAll ps
  | parameters _ => true

/-- whether encoded words may stand in all of some parts -/
def mayEncodeAll : List Token → Bool
  | [] => true
  | t :: ts => mayEncode t && mayEncodeAll ts

end

/-- whether a line may be broken in front of a part -/
def mayBreak : Token → Bool
  | leaf .comma _ | node .mediaType _ _ | node .disposition _ _ | parameters _ => false
  | _ => true

mutual

/-- whether a part begins with a blank -/
def startsBlank : Token → Bool
  | leaf .space _ | leaf .gap _ | leaf .remark _ => true
  | leaf _ _ => false
  | node _ _ ps => startsBlankAll ps
  | parameters _ => false

/-- whether the first of some parts begins with a blank -/
def startsBlankAll : List Token → Bool
  | [] => false
  | t :: _ => startsBlank t

end

mutual

/-- the number of tokens in a token -/
def count : Token → Nat
  | node _ _ ps => countAll ps + 1
  | _ => 1

/-- the number of tokens in some tokens -/
def countAll : List Token → Nat
  | [] => 0
  | t :: ts => count t + countAll ts

end

/-- whether a token is the inside of quotes, a comment or a bracketed domain -/
def isInside : Token → Bool
  | leaf .quoted _ | leaf .remark _ => true
  | _ => false

/-- the character set that the encoded words of a text need -/
def charsetOf (s : Text) : WordCharset :=
  if s.any fun c => (Text.rawOctet? c).isSome then .unknown else .utf8

/-- whether a part has to be encoded: it holds a line break or octets without characters, or it is the
inside of something and holds a mark of the grammar -/
def needsEncoding (t : Token) : Bool :=
  let s := t.text
  s.any fun c => c == '\n' || c == '\r' || (Text.rawOctet? c).isSome || (t.isInside && isSpecial c)

end Token

/-! ## lines under construction -/

/-- the lines of a field so far -/
structure Lines where
  /-- the finished lines, the latest first -/
  done : List Text
  /-- the line being written -/
  line : Text
  /-- where the latest encoded word of the line begins -/
  wordStart : Option Nat
  /-- the character set of the latest encoded word -/
  wordCharset : WordCharset
  /-- how many forms that forbid encoded words are open -/
  forbidden : Nat

namespace Lines

/-- no lines yet -/
def empty : Lines := ⟨[], [], none, .utf8, 0⟩

/-- the room that is left on the line -/
def room (l : Lines) : Int := (lineLimit : Int) - l.line.length

/-- the line with more at its end -/
def push (l : Lines) (s : Text) : Lines := { l with line := l.line ++ s }

/-- a new line that begins so -/
def begin (l : Lines) (start : Text) : Lines := { l with done := l.line :: l.done, line := start }

/-- the blank at the end of the line -/
def lastBlank (l : Lines) : Text :=
  match l.line.getLast? with
  | some c => if isSpace c then [c] else []
  | none => []

/-- a new line that begins with the blank at the end of the line, which is taken off there -/
def breakLine (l : Lines) : Lines :=
  let blank := l.lastBlank
  { l with done := l.line.take (l.line.length - blank.length) :: l.done, line := blank }

/-- all lines, each ended by a line feed -/
def text (l : Lines) : Text := (l.line :: l.done).reverse.flatMap fun s => s ++ ['\n']

end Lines

/-! ## encoded words -/

/-- the longest beginning of a text, of at most `count` characters, whose encoded word fits into some
room, with the word -/
def fittingWord (cs : WordCharset) (s : Text) (room : Nat) : (count : Nat) → Except Fault (Nat × Text)
  | 0 => do return (0, ← writeEncodedWord cs [])
  | n + 1 => do
    let w ← writeEncodedWord cs (s.take (n + 1))
    if w.length ≤ room then return (n + 1, w) else fittingWord cs s room n

/-- a text in encoded words; `tries` bounds the lines that are begun -/
def pushWords (cs : WordCharset) : (tries : Nat) → Text → Lines → Except Fault Lines
  | 0, _, l => .ok l
  | n + 1, s, l =>
    if s.isEmpty then .ok l
    else
      let frame := cs.name.length + 7
      let space := l.room - frame
      if space ≤ 0 then pushWords cs n s (l.begin [' '])
      else do
        let (taken, w) ← fittingWord cs s l.room.toNat (min space.toNat s.length)
        let l := l.push w
        match s.drop taken with
        | [] => return l
        | rest =>
          let l := l.begin [' ']
          pushWords cs n rest { l with wordStart := some l.line.length }

/-- a run of characters in encoded words, joined with the latest encoded word of the line; a blank at
either end stays outside -/
def pushEncoded (cs : WordCharset) (s : Text) (l : Lines) : Except Fault Lines := do
  let start := if l.wordCharset = cs then l.wordStart else none
  let (s, l) := match start with
    | some i => ((readUnstructured (l.line.drop i ++ s)).text, { l with line := l.line.take i })
    | none => (s, l)
  let (s, l) := match s with
    | c :: r =>
      if isSpace c then
        let l := if l.line.length = lineLimit then l.breakLine else l
        (r, l.push [c])
      else (s, l)
    | [] => (s, l)
  let (s, behind) := match s.getLast? with
    | some c => if isSpace c then (s.dropLast, [c]) else (s, [])
    | none => (s, [])
  let l := { l with wordStart := some (start.getD l.line.length), wordCharset := cs }
  return (← pushWords cs (2 * s.length + 3) s l).push behind

/-! ## parameters -/

/-- the longest beginning of a value, of at most `count` characters, whose percent encoding fits into
some room -/
def fittingSection (value : Text) (room : Nat) : (count : Nat) → Nat × Text
  | 0 => (0, [])
  | n + 1 =>
    let s := Percent.encode (value.take (n + 1))
    if s.length ≤ room then (n + 1, s) else fittingSection value room n

/-- a value in numbered sections, each on a line of its own -/
def pushSections (name charset : Text) : (tries number : Nat) → Text → Lines → Lines
  | 0, _, _, l => l
  | n + 1, number, value, l =>
    let mark : Text := if number = 0 then charset ++ "''" else []
    let frame := name.length + (Text.decimal number).length + 3 + mark.length
    let room := lineLimit - frame - 2
    let (taken, s) := fittingSection value room (min room value.length)
    let l := l.begin (" " ++ name ++ "*" ++ Text.decimal number ++ "*=" ++ mark ++ s)
    match value.drop taken with
    | [] => l
    | rest => pushSections name charset n (number + 1) rest (l.push [';'])

/-- a parameter behind a semicolon -/
def pushParameter (l : Lines) (p : Text × Text) : Lines :=
  let l := if (Text.trimEnd l.line).getLast? = some ';' then l else l.push [';']
  let isRaw := p.2.any fun c => (Text.rawOctet? c).isSome
  let charset : Text := if isRaw then "unknown-8bit" else "utf-8"
  let whole :=
    if isRaw then p.1 ++ "*=" ++ charset ++ "''" ++ Percent.encode p.2
    else p.1 ++ '=' :: quote p.2
  if l.line.length + whole.length + 1 < lineLimit then l.push (' ' :: whole)
  else if whole.length + 2 ≤ lineLimit then l.begin (' ' :: whole)
  else pushSections p.1 charset (p.2.length + 1) 0 p.2 l

/-! ## trees -/

/-- what is left to be written: a part, or the end of a form that forbids encoded words -/
inductive Task where
  | part (t : Token)
  | allow

/-- what becomes of a part: it is written, or others stand in its place -/
inductive Step where
  | written (l : Lines)
  | replaced (ts : List Task) (l : Lines)

/-- a part written where there is no room for it on the line; a run of characters that can be encoded
stands for itself, to be encoded -/
def pushLong (t : Token) (l : Lines) : Step :=
  let s := t.text
  let canOpen := !l.lastBlank.isEmpty || t.startsBlank
  if t.mayBreak ∧ s.length + 1 ≤ lineLimit ∧ canOpen then
    .written { (l.breakLine.push s) with wordStart := none }
  else
    match t with
    | .node _ _ ps =>
      if t.mayEncode then .replaced (ps.map .part) l
      else .replaced (ps.map .part ++ [.allow]) { l with forbidden := l.forbidden + 1 }
    | _ =>
      if t.mayEncode ∧ l.forbidden = 0 then .replaced [.part t] l
      else if canOpen then .written (l.breakLine.push s)
      else .written (l.push s)

/-- a part written as it is if there is room for it -/
def pushPlain (t : Token) (l : Lines) : Step :=
  if (t.text.length : Int) ≤ l.room then .written (l.push t.text) else pushLong t l

/-- tasks carried out; `steps` bounds their number, and `encoding` tells that the next part has to be
encoded -/
def run : (steps : Nat) → (encoding : Bool) → List Task → Lines → Except Fault Lines
  | 0, _, _, l => .ok l
  | _, _, [], l => .ok l
  | n + 1, encoding, .allow :: ts, l => run n encoding ts { l with forbidden := l.forbidden - 1 }
  | n + 1, encoding, .part t :: ts, l =>
    let wanted := encoding || t.needsEncoding
    match t with
    | .parameters ps => run n wanted ts (ps.foldl pushParameter l)
    | t =>
      if wanted ∧ l.forbidden = 0 then
        if t.mayEncode then
          match t with
          | .leaf _ s => do run n false ts (← pushEncoded (Token.charsetOf s) s l)
          | t => run n false (t.parts.map .part ++ ts) l
        else do
          let l := { l with wordStart := none }
          let whole ← if t.mayBreak then
              do pure (some (← run n false (t.parts.map .part) .empty))
            else pure none
          match whole with
          | some ⟨[], line, _, _, _⟩ =>
            let l := if (line.length : Int) ≤ l.room then l else l.breakLine
            run n false ts (l.push line)
          | _ =>
            match t with
            | .leaf _ _ =>
              match pushPlain t l with
              | .written l => run n false ts l
              | .replaced us l => run n true (us ++ ts) l
            | t => run n false (t.parts.map .part ++ ts) l
      else
        match pushPlain t l with
        | .written l => run n wanted ts l
        | .replaced us l =>
          match t with
          | .leaf _ _ => run n true (us ++ ts) l
          | _ => run n wanted (us ++ ts) l

/-- the tree of a whole field: its name, a colon, a blank unless the value is empty, and the value -/
def fieldTree (name : Text) (value : Token) : List Token :=
  let blank := match value with
    | .node _ _ [] => []
    | _ => [Token.form .filler [.leaf .space [' ']]]
  .form .label [.leaf .plain name, .markChar ':'] :: blank ++ [value]

/-- the lines of a field, each ended by a line feed -/
def fold (name : Text) (value : Token) : Except Fault Text := do
  let parts := fieldTree name value
  return (← run (4 * Token.countAll parts + 4) false (parts.map .part) .empty).text

end Mailroom.Header
