import Mailroom.Html.Clean
import Mailroom.Html.Draft
import Mailroom.Html.Escape
import Mailroom.Html.Event
import Mailroom.Text.Integer

/-!
# Markup as plain text

What a markup text says is drafted as plain text, event by event: headings, lists, quotations, tables and
code keep marks that can be read without markup.

* `Draft.startTag`, `Draft.endTag`   what tags do;
* `Draft.text`                       what text does;
* `plainText`                        the plain text of a markup text.
-/

namespace Mailroom.Html

/-- the level of a heading; zero for other elements -/
def headingLevel (name : Text) : Nat :=
  match name with
  | ['h', c] => (Text.asciiDigit? c).getD 0
  | _ => 0

/-- stands for a blank that is kept, until the draft is finished -/
def hardBlankName : Text := "&nbsp_place_holder;"

namespace Draft

/-! ## lists -/

/-- how deep the items of lists are set in, the outermost list first -/
def itemDepth : Option ListKind → List OpenList → Text
  | _, [] => []
  | outer, l :: ls =>
    (if outer = some .numbers ∧ l.kind = .bullets then "   " else "  ") ++ itemDepth (some l.kind) ls

/-- the number before that of the first item -/
def firstNumber (attributes : List Attribute) : Int :=
  match (attributes.reverse.find? fun a => a.name == "start".toList).bind (·.value) with
  | none => 0
  | some v =>
    match Text.readInteger maxDigits v with
    | .ok n => n - 1
    | .error _ => 0

/-- the kind of list that an element is -/
def listKind? (name : Text) : Option ListKind :=
  if name = "ul".toList then some .bullets
  else if name = "ol".toList then some .numbers
  else none

/-- before a list and behind it stands an empty line, unless it touches another -/
def aroundList (d : Draft) : Draft :=
  if d.lists.isEmpty ∧ !d.afterList then d.oweLine else d

/-- a list begun -/
def startList (kind : ListKind) (attributes : List Attribute) (d : Draft) : Draft :=
  let d := d.aroundList
  { d with lists := ⟨kind, firstNumber attributes⟩ :: d.lists }

/-- a list ended -/
def endList (d : Draft) : Draft :=
  let d := d.aroundList
  match d.lists with
  | [] => d
  | [_] => { d with lists := [] }.mark "\n"
  | _ :: ls => { d with lists := ls }

/-- an item begun -/
def startItem (d : Draft) : Draft :=
  let d := { d with itemIndent := [] }.oweBreak
  let depth := itemDepth none d.lists.reverse
  let d := { d with itemIndent := depth }.mark depth
  let d := match d.lists with
    | ⟨.numbers, n⟩ :: ls =>
      let d := { d with lists := ⟨.numbers, n + 1⟩ :: ls, itemIndent := d.itemIndent ++ "   " }
      d.mark (Text.decimalInt (n + 1) ++ ". ")
    | _ => { d with itemIndent := d.itemIndent ++ "  " }.mark "- "
  { d with atStart := true }

/-! ## other elements -/

/-- a quotation begun -/
def startQuotation (d : Draft) : Draft :=
  let d := d.oweLine.put .quotation "> "
  { d with atStart := true, quotations := d.quotations + 1 }

/-- struck text begun -/
def startStruck (d : Draft) : Draft :=
  let d :=
    if d.lastText.getLast? = some '~' then { d with lastText := d.lastText ++ " " }.mark " ~~"
    else d.mark "~~"
  { d with clinging := true }

/-- the meaning of an abbreviation; the last one counts -/
def define (short meaning : Text) (d : Draft) : Draft :=
  if d.glossary.any (·.1 == short) then
    { d with glossary := d.glossary.map fun e => if e.1 == short then (short, meaning) else e }
  else { d with glossary := d.glossary ++ [(short, meaning)] }

/-- an abbreviation begun -/
def startAbbreviation (attributes : List Attribute) (d : Draft) : Draft :=
  let title := (attributes.reverse.find? fun a => a.name == "title".toList).bind (·.value)
  { d with meaning := title, abbreviation := some [] }

/-- an abbreviation ended -/
def endAbbreviation (d : Draft) : Draft :=
  let d := match d.meaning with
    | some m => d.define (d.abbreviation.getD []) m
    | none => d
  { d with meaning := none, abbreviation := none }

/-- the ends of code are marked; within preformatted text nothing is -/
def toggleCode (d : Draft) : Draft :=
  if d.preformatted then d else let d := d.mark "\x60"; { d with code := !d.code }

/-- a cell begun -/
def startCell (d : Draft) : Draft :=
  let d := if d.inRow then d.mark "| " else d
  { d with inRow := true, cells := d.cells + 1 }

/-- a row ended; the first is underlined -/
def endRow (d : Draft) : Draft :=
  let d := { d with inRow := false }.oweRow
  if d.firstRow then
    let line : Text := ['|'].intercalate (List.replicate d.cells "---".toList)
    { (d.mark line).oweRow with firstRow := false }
  else d

/-- preformatted text begun -/
def startPreformatted (d : Draft) : Draft :=
  { d with preformattedStart := true, preformatted := true }.oweLine

/-! ## tags -/

/-- what a start tag does that is no heading and no list -/
def startOther (name : Text) (attributes : List Attribute) (d : Draft) : Draft :=
  if (wordSet "p div").contains name then if d.inRow then d else d.oweLine
  else if name = "br".toList then d.mark (if 0 < d.quotations then "  \n> " else "  \n")
  else if name = "hr".toList then (d.oweLine.mark "* * *").oweLine
  else if (wordSet "head style script").contains name then { d with hush := d.hush + 1 }
  else if name = "body".toList then { d with hush := 0 }
  else if name = "blockquote".toList then d.startQuotation
  else if (wordSet "del strike s").contains name then d.startStruck
  else if (wordSet "kbd code tt").contains name then d.toggleCode
  else if name = "abbr".toList then d.startAbbreviation attributes
  else if name = "q".toList then d.mark "\""
  else if name = "dl".toList then d.oweLine
  else if name = "dd".toList then d.mark "    "
  else if name = "li".toList then d.startItem
  else if name = "table".toList then { d with firstRow := true }
  else if name = "tr".toList then { d with cells := 0 }
  else if (wordSet "td th").contains name then d.startCell
  else if name = "pre".toList then d.startPreformatted
  else d

/-- what an end tag does that is no heading and no list -/
def endOther (name : Text) (d : Draft) : Draft :=
  if (wordSet "p div").contains name then if d.inRow then d else d.oweLine
  else if (wordSet "head style script").contains name then { d with hush := d.hush - 1 }
  else if name = "body".toList then { d with hush := 0 }
  else if name = "blockquote".toList then { d with quotations := d.quotations - 1 }.oweLine
  else if (wordSet "del strike s").contains name then d.mark "~~"
  else if (wordSet "kbd code tt").contains name then d.toggleCode
  else if name = "abbr".toList then d.endAbbreviation
  else if name = "q".toList then d.mark "\""
  else if (wordSet "dt dd").contains name then d.oweBreak
  else if name = "li".toList then { d with itemIndent := [] }.oweBreak
  else if name = "tr".toList then d.endRow
  else if name = "pre".toList then { d with preformatted := false }.oweLine
  else d

/-- what a start tag does -/
def startTag (name : Text) (attributes : List Attribute) (d : Draft) : Draft :=
  let d := { d with lastTag := name }
  match listKind? name with
  | some kind => { d.startList kind attributes with afterList := true }
  | none =>
    let d :=
      if 0 < headingLevel name then d.oweLine.mark (List.replicate (headingLevel name) '#' ++ " ")
      else d.startOther name attributes
    { d with afterList := false }

/-- what an end tag does -/
def endTag (name : Text) (d : Draft) : Draft :=
  let d := { d with lastTag := name }
  if (listKind? name).isSome then { d.endList with afterList := true }
  else if 0 < headingLevel name then d.oweLine
  else { d.endOther name with afterList := false }

/-! ## text -/

/-- whether a blank has to stand between a text that clings to a mark and the next -/
def needsBlank (s : Text) (d : Draft) : Bool :=
  s.head?.any (fun c => !(Text.isBlank c || "][()\x7b\x7d.!?".toList.contains c))
    && headingLevel d.lastTag == 0 && !(wordSet "a code pre").contains d.lastTag

/-- a text written; what a reference stands for is no mark -/
def text (isReference : Bool) (s : Text) (d : Draft) : Draft :=
  if s.isEmpty then d
  else
    let (s, d) :=
      if d.clinging then (Text.trim s, { d with clinging := false, clung := true })
      else if d.clung then (if d.needsBlank s then ' ' :: s else s, { d with clung := false })
      else (s, d)
    let s := if d.code || d.preformatted || isReference then s else escapeMarks s
    { d with lastText := s }.put .flow s

/-- what a name stands for; an unknown name stands for itself -/
def namedText (name : Text) : Text :=
  if name = "nbsp".toList then hardBlankName
  else (Entity.chars? name).getD ('&' :: name ++ ";")

/-- what a number stands for -/
def numberedText (n : Nat) : Text :=
  if n.isValidChar then [Char.ofNat n] else []

/-- what an event does -/
def take (d : Draft) : Event → Draft
  | .start name attributes => d.startTag name attributes
  | .finish name => d.endTag name
  | .text s => d.text false s
  | .named name => d.text true (namedText name)
  | .numbered n => d.text true (numberedText n)

/-- the text of a draft that ends -/
def finished (d : Draft) : Text :=
  Text.replaceAll hardBlankName "\xa0" (d.oweBreak.put .last []).written.reverse

end Draft

/-- a text drafted from events -/
def draftText (s : Text) : Text :=
  let s := Text.replaceAll "</' + 'script>" "</ignore>" s
  ((Event.read s).foldl Draft.take {}).finished

/-- whether a text that cannot be cleaned for this reason is taken as it is -/
def isBearable : Fault → Bool
  | .emptyDocument | .declaredEncoding | .controlCharacter => true
  | _ => false

/-- the plain text of a markup text -/
def plainText (s : Text) : Except Fault Text :=
  if s.all Text.isBlank then .ok []
  else
    match clean s with
    | .ok t => .ok (Text.trim (draftText t))
    | .error f => if isBearable f then .ok (Text.trim (draftText s)) else .error f

end Mailroom.Html
