import Mailroom.Text.Blank

/-!
# Plain text half way

Plain text is drafted from left to right.  Line breaks and blanks are owed until something follows them,
so that none stand at the end; what follows is set in as deep as quotations and lists ask for.

* `Draft`        what is written, what is owed, and where the text stands;
* `Draft.put`    a piece written;
* `Draft.owe`    line breaks owed.
-/

namespace Mailroom.Html

/-- the kind of a list -/
inductive ListKind where
  | bullets
  | numbers
deriving DecidableEq, Repr

/-- a list that is open, and the number of its last item -/
structure OpenList where
  kind : ListKind
  number : Int
deriving DecidableEq, Repr

/-- how a piece is written -/
inductive Manner where
  /-- as it is, unless it is empty -/
  | mark
  /-- with its blanks as single spaces -/
  | flow
  /-- as the mark of a quotation -/
  | quotation
  /-- as the end of the text -/
  | last
deriving DecidableEq, Repr

/-- a plain text half way -/
structure Draft where
  /-- what is written, last character first -/
  written : Text := []
  /-- how many elements say that nothing is to be written -/
  hush : Int := 0
  /-- the line breaks owed -/
  breaks : Nat := 0
  /-- what a line has to end with before the line breaks owed -/
  lineEnd : Text := []
  /-- whether a blank is owed -/
  blank : Bool := false
  /-- whether the next piece stands where nothing is owed -/
  atStart : Bool := true
  /-- the depth of quotations -/
  quotations : Int := 0
  /-- the open lists, the innermost first -/
  lists : List OpenList := []
  /-- whether the last tag belonged to a list -/
  afterList : Bool := false
  /-- how deep preformatted text in a list is set in -/
  itemIndent : Text := []
  /-- whether the text is preformatted -/
  preformatted : Bool := false
  /-- whether preformatted text is about to begin -/
  preformattedStart : Bool := false
  /-- whether the text is code -/
  code : Bool := false
  /-- whether the next row of a table is the first -/
  firstRow : Bool := false
  /-- whether a cell stands before in the row -/
  inRow : Bool := false
  /-- the cells of the row -/
  cells : Nat := 0
  /-- the text of the abbreviation being read -/
  abbreviation : Option Text := none
  /-- its meaning -/
  meaning : Option Text := none
  /-- the abbreviations with their meanings -/
  glossary : List (Text × Text) := []
  /-- whether a mark has just been set that clings to the text behind it -/
  clinging : Bool := false
  /-- whether such a text has just been written -/
  clung : Bool := false
  /-- the last text -/
  lastText : Text := []
  /-- the name of the last tag -/
  lastTag : Text := []

namespace Draft

/-- characters written as they are -/
def write (s : Text) (d : Draft) : Draft := { d with written := s.reverse ++ d.written }

/-- at least one line break owed -/
def oweBreak (d : Draft) : Draft := if d.breaks = 0 then { d with breaks := 1 } else d

/-- an empty line owed -/
def oweLine (d : Draft) : Draft := { d with breaks := 2 }

/-- a line break within a table owed -/
def oweRow (d : Draft) : Draft := { d.oweBreak with lineEnd := "  " }

/-- every stretch of blanks as one space -/
def collapse : Text → Text
  | [] => []
  | c :: r =>
    if Text.isBlank c then
      match collapse r with
      | ' ' :: rest => ' ' :: rest
      | rest => ' ' :: rest
    else c :: collapse r

/-- a piece that flows: its blanks collapsed, and the one at its front owed -/
def flowing (s : Text) (d : Draft) : Text × Draft :=
  match collapse s with
  | ' ' :: r => (r, { d with blank := true })
  | t => (t, d)

/-- the marks of the quotations in front of a line -/
def quotationMarks (isMark : Bool) (d : Draft) : Text :=
  List.replicate d.quotations.toNat '>' ++ (if !isMark && d.quotations != 0 then [' '] else [])

/-- preformatted text begins on a line of its own -/
def onOwnLine (s : Text) (d : Draft) : Text :=
  if d.preformattedStart && !("\n".toList.isPrefixOf s || "\r\n".toList.isPrefixOf s) then '\n' :: s
  else s

/-- how deep a line is set in -/
def indent (isMark : Bool) (d : Draft) : Text :=
  d.quotationMarks isMark
    ++ (if !d.preformatted then [] else if d.lists.isEmpty then "    " else d.itemIndent)

/-- a preformatted text set in; in a list it begins on the line of its item -/
def setIn (indent s : Text) (d : Draft) : Text :=
  let s := if d.preformatted then Text.replaceChar '\n' ('\n' :: indent) s else s
  if d.preformattedStart && !d.lists.isEmpty then
    let dropped := if d.preformatted then '\n' :: indent else ['\n']
    s.dropWhile dropped.contains
  else s

/-- nothing owed any more -/
def settled (d : Draft) : Draft := { d with breaks := 0, blank := false }

/-- the line breaks owed written, and the next line set in -/
def payBreaks (indent : Text) (d : Draft) : Draft :=
  if d.breaks = 0 then d
  else
    { d.write ((List.replicate d.breaks (d.lineEnd ++ '\n' :: indent)).flatten) with
      blank := false, lineEnd := [] }

/-- the blank owed written, unless a line has just begun -/
def payBlank (d : Draft) : Draft :=
  if d.blank then
    let d' := if d.written.head? = some '\n' then d else d.write [' ']
    { d' with blank := false }
  else d

/-- the meanings of the abbreviations written -/
def writeGlossary (d : Draft) : Draft :=
  d.write (d.glossary.flatMap fun e => "  *[" ++ e.1 ++ "]: " ++ e.2 ++ "\n")

/-- a piece that is not hushed written -/
def putAloud (manner : Manner) (s : Text) (d : Draft) : Draft :=
  let (s, d) := if manner = .flow ∧ !d.preformatted then d.flowing s else (s, d)
  if s.isEmpty ∧ (manner = .mark ∨ manner = .flow) then d
  else
    let s := d.onOwnLine s
    let indent := d.indent (manner == .quotation && s.head? == some '>')
    let s := d.setIn indent s
    let d := { d with preformattedStart := false }
    let d := if d.atStart then { d.settled with atStart := false } else d
    let d := if manner = .last then (d.settled).write "\n" else d
    let d := (d.payBreaks indent).payBlank
    let d := if manner = .last then d.writeGlossary else d
    { d.write s with breaks := 0 }

/-- a piece written; an abbreviation takes it in even if it is hushed -/
def put (manner : Manner) (s : Text) (d : Draft) : Draft :=
  let d := { d with abbreviation := d.abbreviation.map (· ++ s) }
  if d.hush = 0 then d.putAloud manner s else d

/-- a mark written -/
def mark (s : Text) (d : Draft) : Draft := d.put .mark s

end Draft

end Mailroom.Html
