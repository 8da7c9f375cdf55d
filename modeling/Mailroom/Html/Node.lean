import Mailroom.Codec.Percent

/-!
# Trees of markup

A tree is made of elements, texts and comments.  Texts come in two forms: text proper, in which the
special characters are written as references, and verbatim text, which is written as it is.

* `Node`            a tree;
* `isVoid`          whether elements of a name have no content;
* `Node.write`      the written form of a tree, `Node.writeAll` that of neighbours.

Main statements: neighbours are written one after the other (`writeAll_append`), and a written text
holds no angle bracket (`not_mem_escaped`).
-/

namespace Mailroom.Html

/-- an attribute: its name, and its value if it has one -/
structure Attribute where
  name : Text
  value : Option Text
deriving DecidableEq, Repr

/-- a tree of markup -/
inductive Node where
  | text (s : Text)
  | verbatim (s : Text)
  | comment (s : Text)
  | element (name : Text) (attributes : List Attribute) (children : List Node)
deriving Repr

/-- the words of a line -/
def wordSet (line : String) : List Text := Text.splitOn ' ' line.toList

/-- the elements without content -/
def voidNames : List Text :=
  wordSet "area base basefont br col frame hr img input isindex link meta param"

/-- whether elements of a name have no content -/
def isVoid (name : Text) : Bool := voidNames.contains name

namespace Node

/-- the characters of a text, if the node is one -/
def text? : Node → Option Text
  | text s | verbatim s => some s
  | _ => none

/-- the name of an element -/
def name? : Node → Option Text
  | element n _ _ => some n
  | _ => none

/-! ## the written form -/

/-- a character of a text -/
def escapeChar : Char → Text
  | '&' => "&amp;"
  | '<' => "&lt;"
  | '>' => "&gt;"
  | c => [c]

/-- a text with its special characters as references -/
def escaped (s : Text) : Text := s.flatMap escapeChar

theorem not_mem_escaped (s : Text) : '<' ∉ escaped s ∧ '>' ∉ escaped s := by
  have h : ∀ c : Char, '<' ∉ escapeChar c ∧ '>' ∉ escapeChar c := by
    intro c
    unfold escapeChar
    split
    · decide
    · decide
    · decide
    · rename_i h1 h2
      exact ⟨by simpa using Ne.symm h1, by simpa using Ne.symm h2⟩
  constructor <;> intro hm <;> obtain ⟨c, _, hc⟩ := List.mem_flatMap.1 hm
  · exact (h c).1 hc
  · exact (h c).2 hc

/-- attributes whose name says everything -/
def flagNames : List Text :=
  wordSet ("checked compact declare defer disabled ismap multiple nohref noresize noshade nowrap "
    ++ "readonly selected")

/-- whether an attribute of an element holds the address of a resource -/
def holdsAddress (element name : Text) : Bool :=
  (wordSet "href action src").contains name || (name == "name".toList && element == "a".toList)

/-- the characters that stand for themselves in an address -/
def isPlainInAddress (c : Char) : Bool := '!' ≤ c && c ≤ '~'

/-- the value of an attribute as it stands between quotes -/
def writtenValue (element : Text) (a : Attribute) (v : Text) : Text :=
  if holdsAddress element a.name then
    Percent.encodeExcept isPlainInAddress
      ((escaped v).dropWhile fun c => [' ', '\t', '\n', '\x0d'].contains c)
  else escaped v

/-- a value in quotes: in single ones if only double ones occur in it -/
def inQuotes (s : Text) : Text :=
  if s.contains '"' then
    if s.contains '\'' then "\"" ++ Text.replaceChar '"' "&quot;" s ++ "\""
    else "'" ++ s ++ "'"
  else "\"" ++ s ++ "\""

/-- an attribute of an element with the blank in front of it -/
def writeAttribute (element : Text) (a : Attribute) : Text :=
  let name := ' ' :: a.name
  match a.value with
  | some v =>
    if flagNames.contains a.name then name else name ++ "=" ++ inQuotes (writtenValue element a v)
  | none => name

/-- a start tag -/
def startTag (name : Text) (attributes : List Attribute) : Text :=
  '<' :: name ++ attributes.flatMap (writeAttribute name) ++ ">"

/-- the end of an element; empty list items are left without it -/
def endTag (name : Text) (isEmpty : Bool) : Text :=
  if isVoid name || (isEmpty && name == "li".toList) then [] else "</" ++ name ++ ">"

mutual

/-- the written form of a tree -/
def write : Node → Text
  | text s => escaped s
  | verbatim s => s
  | comment s => "<!--" ++ s ++ "-->"
  | element name attributes children =>
    startTag name attributes ++ writeAll children ++ endTag name children.isEmpty

/-- the written form of neighbours -/
def writeAll : List Node → Text
  | [] => []
  | n :: ns => write n ++ writeAll ns

end

theorem writeAll_append (a b : List Node) : writeAll (a ++ b) = writeAll a ++ writeAll b := by
  induction a with
  | nil => simp [writeAll]
  | cons n ns ih => simp [writeAll, ih]

end Node

end Mailroom.Html
