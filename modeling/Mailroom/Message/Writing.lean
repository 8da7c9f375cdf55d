import Mailroom.Header.Folding
import Mailroom.Message.Basic

/-!
# Writing a message

`Message.write` gives the octets of a message: its fields, folded, a blank line, and its body.  Lines end
with a line feed.  Parts stand between boundary lines.

`Message.withBoundary` declares the boundary in the header of the message.
-/

namespace Mailroom.Message

/-- line breaks of every kind as line feeds -/
def plainLines : Octets → Octets
  | 13 :: 10 :: r => 10 :: plainLines r
  | b :: r => (if b = 13 then 10 else b) :: plainLines r
  | [] => []

/-- the fields of a header, folded, and the blank line behind them -/
def writeHeader (h : MessageHeader) : Except Fault Octets := do
  let lines ← h.fields.mapM fun f => do
    Header.fold f.name (← MessageHeader.read f).tree
  return lines.flatMap Text.toMail ++ [10]

/-- the line in front of a part -/
def openingLine (boundary : Text) : Octets := Text.toMail ("--" ++ boundary ++ "\n")

/-- the line behind the last part -/
def closingLine (boundary : Text) : Octets := Text.toMail ("--" ++ boundary ++ "--\n")

mutual

/-- the octets of a message whose parts are separated by a boundary -/
def write (boundary : Text) : Message → Except Fault Octets
  | leaf h b => do
    return (← writeHeader h) ++ plainLines b
  | container h ps => do
    let parts ← writeAll boundary ps
    return (← writeHeader h) ++ parts ++ closingLine boundary

/-- the octets of parts, each behind a boundary line and in front of a line break -/
def writeAll (boundary : Text) : List Message → Except Fault Octets
  | [] => .ok []
  | m :: ms => do
    let first ← write boundary m
    return openingLine boundary ++ first ++ [10] ++ (← writeAll boundary ms)

end

/-- the field of a media type with a boundary -/
def boundaryField (boundary : Text) (f : RawField) : RawField :=
  if MessageHeader.hasName "Content-Type" f then
    { f with value := f.value ++ "; boundary=\"" ++ boundary ++ "\"" }
  else f

/-- a message in parts whose header declares the boundary -/
def withBoundary (boundary : Text) : Message → Message
  | leaf h b => leaf h b
  | container h ps => container { h with fields := h.fields.map (boundaryField boundary) } ps

end Mailroom.Message
