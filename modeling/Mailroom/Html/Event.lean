import Mailroom.Html.Reference
import Mailroom.Html.Token
import Mailroom.Text.Blank

/-!
# Markup as a row of events

For plain text a tree is not needed: the text is read from left to right as tags, references and the
text between them.  Comments and declarations say nothing.  What stands at the end of a text and could
still become a tag or a reference is kept back, and read as text when all else has been read.

* `Event`         a tag, a text or a reference;
* `Event.read`    the events of a text.
-/

namespace Mailroom.Html

/-- an event while a text is read -/
inductive Event where
  | start (name : Text) (attributes : List Attribute)
  | finish (name : Text)
  | text (s : Text)
  /-- a reference by its name -/
  | named (name : Text)
  /-- a reference by its number -/
  | numbered (n : Nat)
deriving Repr

namespace Event

/-- what is found at the front of a text: events and the rest, or too little to tell -/
inductive Found where
  | events (es : List Event) (rest : Text)
  | unfinished

/-! ## start tags -/

/-- a blank or a slash -/
def isFiller (c : Char) : Bool := Text.isBlank c || c == '/'

/-- the value of an attribute, behind its equals signs, and the rest; none if a quote is missing -/
def takeValue? (s : Text) : Option (Text × Text) :=
  let upTo (quote : Char) (r : Text) : Option (Text × Text) :=
    match Text.cutAt quote r with
    | (v, some rest) => some (v, rest)
    | (_, none) => none
  match s.dropWhile Text.isBlank with
  | '"' :: r => upTo '"' r
  | '\'' :: r => upTo '\'' r
  | r =>
    let v := r.takeWhile fun c => !(Text.isBlank c || c == '>')
    some (v, r.drop v.length)

/-- fillers dropped, except a slash before the end of the tag -/
def dropFillers : Text → Text
  | [] => []
  | c :: r =>
    if Text.isBlank c || (c == '/' && r.head? != some '>') then dropFillers r else c :: r

/-- the attributes of a tag, whether it ends its element, and the rest; none if the tag is unfinished -/
def takeAttributes? : Nat → Text → Option (List Attribute × Bool × Text)
  | 0, _ => none
  | n + 1, s =>
    match dropFillers s with
    | [] => none
    | '>' :: r => some ([], false, r)
    | '/' :: '>' :: r => some ([], true, r)
    | c :: r =>
      let more := r.takeWhile fun c => !(isFiller c || c == '=' || c == '>')
      let name := Text.asciiLower (c :: more)
      let after := r.drop more.length
      match after.dropWhile Text.isBlank with
      | '=' :: r =>
        match takeValue? (r.dropWhile (· == '=')) with
        | none => none
        | some (v, rest) =>
          (takeAttributes? n rest).map fun (as, closed, rest) =>
            (⟨name, some (Reference.resolve .text v)⟩ :: as, closed, rest)
      | _ => (takeAttributes? n after).map fun (as, closed, rest) => (⟨name, none⟩ :: as, closed, rest)

/-- a character that ends the name of a tag -/
def endsTagName (c : Char) : Bool := endsName c || c == '\x00'

/-- the start tag at the front of a text, behind its `<` -/
def takeStart (s : Text) : Found :=
  let name := s.takeWhile fun c => !endsTagName c
  match takeAttributes? (s.length + 1) (s.drop name.length) with
  | none => .unfinished
  | some (as, closed, rest) =>
    let name := Text.asciiLower name
    .events (if closed then [start name as, finish name] else [start name as]) rest

/-! ## end tags, comments and declarations -/

/-- a character of the name of a well formed end tag -/
def isNameChar (c : Char) : Bool :=
  Text.isAsciiLetter c || (Text.asciiDigit? c).isSome || ['-', '.', ':', '_'].contains c

/-- the name of a well formed end tag, given what stands in it -/
def plainName? (inside : Text) : Option Text :=
  let s := Text.trim inside
  if s.head?.any Text.isAsciiLetter && s.all isNameChar then some (Text.asciiLower s) else none

/-- the end tag at the front of a text, behind its `</` -/
def takeFinish (s : Text) : Found :=
  match Text.cutAt '>' s with
  | (_, none) => .unfinished
  | (inside, some rest) =>
    match plainName? inside with
    | some name => .events [finish name] rest
    | none =>
      if inside.head?.any Text.isAsciiLetter then
        .events [finish (Text.asciiLower (inside.takeWhile fun c => !endsTagName c))] rest
      else .events [] rest

/-- the rest behind the first place where the given brackets stand, with blanks between them -/
def behind? (brackets : List Char) : Text → Option Text
  | [] => none
  | c :: r =>
    match stripped brackets (c :: r) with
    | some rest => some rest
    | none => behind? brackets r
where
  stripped : List Char → Text → Option Text
    | [], s => some s
    | [b], s => (Text.after? [b] s)
    | b :: bs, s => (Text.after? [b] s).bind fun r => stripped bs (r.dropWhile Text.isBlank)

/-- the rest behind a comment, behind its two dashes -/
def behindComment? : Text → Option Text
  | [] => none
  | '-' :: '-' :: r =>
    match r.dropWhile Text.isBlank with
    | '>' :: rest => some rest
    | _ => behindComment? ('-' :: r)
  | _ :: r => behindComment? r

/-- the rest behind a section in brackets, behind its `[` -/
def behindSection? (s : Text) : Option Text :=
  let keyword := Text.asciiLower (s.takeWhile Text.isAsciiLetter)
  if (wordSet "temp cdata ignore include rcdata").contains keyword then behind? [']', ']', '>'] s
  else if (wordSet "if else endif").contains keyword then behind? [']', '>'] s
  else none

/-- no events and the rest, if there is a rest -/
def silent : Option Text → Found
  | some rest => .events [] rest
  | none => .unfinished

/-- what stands at the front of a text, behind its `<` -/
def takeMarkup : Text → Found
  | '/' :: r => takeFinish r
  | '!' :: '-' :: '-' :: r => silent (behindComment? r)
  | '!' :: '[' :: r => silent (behindSection? r)
  | '!' :: r | '?' :: r => silent (Text.cutAt '>' r).2
  | [] => .unfinished
  | c :: r => if Text.isAsciiLetter c then takeStart (c :: r) else .events [text "<"] (c :: r)

/-- an unfinished tag as text, behind its `<` -/
def giveUp (s : Text) : List Event × Text :=
  match Text.cutAt '>' s with
  | (a, some rest) => ([text ('<' :: a ++ ">")], rest)
  | (_, none) =>
    match Text.cutAt '<' s with
    | (a, some rest) => ([text ('<' :: a)], '<' :: rest)
    | (_, none) => ([text "<"], s)

/-! ## references -/

/-- the rest of a text behind a reference, whose semicolon may be missing -/
def behindReference : Text → Text
  | ';' :: r => r
  | s => s

/-- a reference by number, behind `&#`; it has to be followed by something that could not belong to it -/
def takeNumber? (s : Text) : Option (Nat × Text) :=
  let number := match s with
    | 'x' :: r | 'X' :: r => Reference.takeNumber? 16 Text.hexDigit? r
    | s => Reference.takeNumber? 10 Text.asciiDigit? s
  match number with
  | some (n, c :: rest) => if (Text.hexDigit? c).isSome then none else some (n, behindReference (c :: rest))
  | _ => none

/-- the name of a reference and the rest, behind its `&`; it has to be followed by something -/
def takeName? (s : Text) : Option (Text × Text) :=
  if s.head?.any Text.isAsciiLetter then
    let name := s.takeWhile fun c => Text.isAsciiLetter c || (Text.asciiDigit? c).isSome || c == '-' || c == '.'
    match s.drop name.length with
    | c :: rest => some (name, behindReference (c :: rest))
    | [] =>
      let last := name.reverse.takeWhile fun c => !(c == '-' || c == '.')
      if last.length = name.length then none
      else some (name.take (name.length - last.length - 1), name.drop (name.length - last.length - 1))
  else none

/-! ## the whole text -/

/-- the elements whose content is no markup -/
def isProgram (name : Text) : Bool := (wordSet "script style").contains name

/-- the element that the last event leaves open, if its content is no markup -/
def opened? (es : List Event) : Option Text :=
  match es.getLast? with
  | some (start name _) => if isProgram name then some name else none
  | _ => none

/-- the text before the end tag of a program, and the rest behind the tag -/
def untilProgramEnd (name : Text) : Text → Option (Text × Text)
  | [] => none
  | c :: r =>
    let behindTag : Option Text :=
      match Text.cutAt '>' r with
      | ('/' :: inside, some rest) =>
        if c = '<' ∧ Text.asciiLower (Text.trim inside) = name then some rest else none
      | _ => none
    match behindTag with
    | some rest => some ([], rest)
    | none => (untilProgramEnd name r).map fun (a, rest) => (c :: a, rest)

/-- how far a text has been read: the program it stands in, and what is left -/
structure Rest where
  program : Option Text
  left : Text

/-- a text as an event, if it is not empty -/
def textEvents (s : Text) : List Event := if s.isEmpty then [] else [text s]

/-- a text read as far as can be told; at its end what is unfinished is text.  Every round takes a
character at least -/
def readOn (atEnd : Bool) : Nat → Rest → List Event × Rest
  | 0, r => ([], r)
  | n + 1, ⟨some name, s⟩ =>
    match untilProgramEnd name s with
    | none => ([], ⟨some name, s⟩)
    | some (a, rest) =>
      let (es, r) := readOn atEnd n ⟨none, rest⟩
      (textEvents a ++ finish name :: es, r)
  | n + 1, ⟨none, s⟩ =>
    let before := s.takeWhile fun c => !(c == '<' || c == '&')
    let goOn (es : List Event) (rest : Text) : List Event × Rest :=
      let (more, r) := readOn atEnd n ⟨opened? es, rest⟩
      (textEvents before ++ es ++ more, r)
    let stop (es : List Event) (left : Text) : List Event × Rest := (textEvents before ++ es, ⟨none, left⟩)
    match s.drop before.length with
    | [] => stop [] []
    | ['<'] => stop [] ['<']
    | '<' :: r =>
      match takeMarkup r with
      | .events es rest => goOn es rest
      | .unfinished =>
        if atEnd then
          let (es, rest) := giveUp r
          goOn es rest
        else stop [] ('<' :: r)
    | '&' :: '#' :: r =>
      match takeNumber? r with
      | some (k, rest) => goOn [numbered k] rest
      | none => if r.contains ';' then stop [text "&#"] r else stop [] ('&' :: '#' :: r)
    | _ :: r =>
      match takeName? r with
      | some (name, rest) => goOn [named name] rest
      | none =>
        match r with
        | [] => stop [] ['&']
        | c :: more =>
          if Text.isAsciiLetter c then stop [] (if atEnd ∧ more = [] then [c] else '&' :: r)
          else goOn [text "&"] r

/-- the events of a text: it is read twice as far as can be told, and then to its end -/
def read (s : Text) : List Event :=
  let rounds (r : Rest) : Nat := r.left.length + 1
  let (first, r) := readOn false (s.length + 1) ⟨none, s⟩
  let (second, r) := readOn false (rounds r) r
  let (third, r) := readOn true (rounds r) r
  let last := if r.program.isSome then [] else textEvents r.left
  first ++ second ++ third ++ last

end Event

end Mailroom.Html
