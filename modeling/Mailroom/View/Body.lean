import Mailroom.Html.Plain
import Mailroom.Message.Body
import Mailroom.View.Format

/-!
# The body of a message in the listing

Each part that is not made of parts is shown as one group of lines, in the order of the message.  A
part is shown according to its media type, to whether it stands inside another part, and to whether
plain text stands before it among its own neighbours.

* `Entry`         the lines of a part, and the part itself where it can be saved;
* `bodyEntries`   the entries of a message, each on its own or as the fault in its place;
* `bodyLines`     all lines.
-/

namespace Mailroom.View

/-- where a part stands: its number among its neighbours, and how many parts it stands inside -/
structure Spot where
  index : Nat
  depth : Nat
deriving DecidableEq, Repr

/-- the lines of a part, and the part with its place if it can be saved -/
structure Entry where
  lines : List Text
  saved : Option (Message × Spot)

/-- one line about a part that is no plain text -/
def describe (m : Message) : Except Fault Text := do
  let content ← m.rawText
  let type ← m.contentType
  let name := (← m.header.filename?).getD []
  let encoding := (← m.header.field? "Content-Transfer-Encoding").getD "7bit"
  let disposition := match ← m.header.disposition? with
    | some (c :: r) => c :: r
    | _ => "inline".toList
  let size ← size content.length
  return "Content: " ++ type ++ "; name=\"" ++ name ++ "\" encoding=\"" ++ encoding ++ "\" ("
    ++ disposition ++ ") [" ++ size ++ "]"

/-- the line of a plain text -/
def plainLine (m : Message) : Text := "Content: " ++ (m.decodedText?.getD [])

/-- the line of a markup text -/
def markupLine (m : Message) : Except Fault Text := do
  return "Content: " ++ (← Html.plainText (m.decodedText?.getD []))

/-- the entry of a part that is not made of parts; `afterText` tells of plain text before it -/
def leafEntry (m : Message) (spot : Spot) (afterText : Bool) : Except Fault Entry := do
  let type ← m.contentType
  let main := MessageHeader.mainType type
  let nested : Text := if spot.depth = 0 then [] else " nested"
  if type = "text/plain".toList then return ⟨[plainLine m], none⟩
  else if type = "text/html".toList then
    let first ←
      if afterText then
        pure (warning ("Skipping displaying" ++ nested ++ " \"text/html\" content type"))
      else markupLine m
    return ⟨[first, ← describe m], some (m, spot)⟩
  else if main = "application".toList ∨ main = "image".toList then
    return ⟨[← describe m], some (m, spot)⟩
  else if 0 < spot.depth then
    return ⟨[warning ("Skipping displaying nested \"" ++ type ++ "\" content type")], none⟩
  else
    return ⟨["Body Part Content-Type: " ++ ((← m.header.field? "Content-Type").getD type)], none⟩

/-- whether a part is plain text -/
def isPlainText (m : Message) : Bool :=
  match m.contentType with
  | .ok type => type == "text/plain".toList
  | .error _ => false

mutual

/-- the entries of one part -/
def partEntries (spot : Spot) (afterText : Bool) : Message → List (Except Fault Entry)
  | .leaf h b => [leafEntry (.leaf h b) spot afterText]
  | .container _ ps => partsEntries ⟨0, spot.depth + 1⟩ false ps

/-- the entries of neighbouring parts -/
def partsEntries (spot : Spot) (afterText : Bool) : List Message → List (Except Fault Entry)
  | [] => []
  | m :: ms =>
    partEntries spot afterText m
      ++ partsEntries ⟨spot.index + 1, spot.depth⟩ (afterText || isPlainText m) ms

end

/-- the entry of a message that is not made of parts -/
def wholeEntry (m : Message) : Except Fault Entry := do
  let type ← m.contentType
  if type = "text/plain".toList then return ⟨[plainLine m], none⟩
  else if type = "text/html".toList then return ⟨[← markupLine m], none⟩
  else if MessageHeader.mainType type = "text".toList then
    return ⟨["Unable to display Content for text Sub-Type: " ++ MessageHeader.subType type], none⟩
  else
    return ⟨["Unable to get the Content of message with Content-Type: " ++ type], none⟩

/-- the entries of a message in its order; where one cannot be made, its fault stands -/
def bodyEntries : Message → List (Except Fault Entry)
  | .leaf h b => [wholeEntry (.leaf h b)]
  | .container _ ps => partsEntries ⟨0, 0⟩ false ps

/-- all lines of a message's body -/
def bodyLines (m : Message) : Except Fault (List Text) := do
  return (← (bodyEntries m).mapM id).flatMap Entry.lines

end Mailroom.View
