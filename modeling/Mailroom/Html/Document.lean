import Mailroom.Fault
import Mailroom.Html.Tree

/-!
# The excerpt of a document

Of a text that is a whole document all is taken.  Of a fragment only what it says is taken: its single
element, or its body as one element.

* `Excerpt`       an element and the text that follows it;
* `Excerpt.read`  the excerpt of a markup text.
-/

namespace Mailroom.Html

/-- an element and the texts behind it -/
structure Excerpt where
  root : Node
  tail : List Node
deriving Repr

/-- the written form -/
def Excerpt.write (e : Excerpt) : Text := e.root.write ++ Node.writeAll e.tail

/-- whether a text is declared to be a whole document -/
def isWhole (s : Text) : Bool :=
  match s.dropWhile Text.isBlank with
  | '<' :: r =>
    "html".toList.isPrefixOf (Text.asciiLower r) || "!doctype".toList.isPrefixOf (Text.asciiLower r)
  | _ => false

/-! ## declared encodings -/

/-- a text in quotes at the front; the quotes need not be alike -/
def startsQuoted : Text → Bool
  | '"' :: r | '\'' :: r => r.any fun c => c == '"' || c == '\''
  | _ => false

/-- whether an encoding is declared at the front of a text, behind a blank -/
def startsEncoding (s : Text) : Bool :=
  match Text.after? "encoding" (s.dropWhile Text.isBlank) with
  | none => false
  | some r =>
    match r.dropWhile Text.isBlank with
    | '=' :: r => startsQuoted (r.dropWhile Text.isBlank)
    | _ => false

/-- whether an encoding is declared before the next `>` -/
def encodingFollows : Text → Bool
  | [] => false
  | '>' :: _ => false
  | _ :: r => (r.head?.any Text.isBlank && startsEncoding r) || encodingFollows r

/-- whether a text declares its encoding -/
def declaresEncoding (s : Text) : Bool :=
  match Text.after? "<?xml" s with
  | none => false
  | some r => encodingFollows r

/-! ## the parts of a document -/

/-- elements that stand for themselves in a body -/
def blockNames : List Text :=
  wordSet ("address blockquote center del div h1 h2 h3 h4 h5 h6 hr ins isindex noscript p pre dir dl dt "
    ++ "dd li menu ol ul table caption colgroup col thead tfoot tbody tr td th fieldset form legend "
    ++ "optgroup option")

mutual

/-- whether a tree holds an element that stands for itself -/
def Node.holdsBlock : Node → Bool
  | .element name _ children => blockNames.contains name || holdsBlockAny children
  | _ => false

/-- whether one of some trees does -/
def holdsBlockAny : List Node → Bool
  | [] => false
  | n :: ns => n.holdsBlock || holdsBlockAny ns

end

/-- the children of an element -/
def Node.children : Node → List Node
  | .element _ _ cs => cs
  | _ => []

/-- whether a node is an element of a name -/
def Node.isNamed (name : Text) (n : Node) : Bool := n.name? == some name

/-- the nodes from the first that is no text on -/
def dropTexts (ns : List Node) : List Node := ns.dropWhile fun n => n.text?.isSome

/-- all elements of a name made one, in the place of the first -/
def gather (name : Text) (take : List Node → List Node) (ns : List Node) : List Node :=
  match ns.span fun n => !n.isNamed name with
  | (before, .element n as cs :: after) =>
    let others := after.filter (Node.isNamed name)
    before ++ .element n as (cs ++ others.flatMap fun o => take o.children)
      :: after.filter fun o => !o.isNamed name
  | _ => ns

/-- whether texts say nothing -/
def areBlank (ns : List Node) : Bool := ns.all fun n => (n.text?.getD []).all Text.isBlank

/-- the texts at the front -/
def leadingTexts (ns : List Node) : List Node := ns.takeWhile fun n => n.text?.isSome

/-- the excerpt of a body and of the texts behind it -/
def bodyExcerpt (attributes : List Attribute) (children tail : List Node) : Excerpt :=
  let whole : Excerpt :=
    let name : Text := if holdsBlockAny children then "div" else "span"
    ⟨.element name attributes children, tail⟩
  match dropTexts children with
  | [] => whole
  | n :: rest =>
    if (dropTexts rest).isEmpty && areBlank (leadingTexts children) && areBlank rest then ⟨n, rest⟩
    else whole

/-- the excerpt of a fragment, given the element around it -/
def fragmentExcerpt? (root : Node) : Option Excerpt :=
  match root with
  | .element name attributes children =>
    let children := gather "head" dropTexts (gather "body" id children)
    if children.any (Node.isNamed "head") then some ⟨.element name attributes children, []⟩
    else
      match children.dropWhile fun n => !n.isNamed "body" with
      | .element _ as cs :: rest => some (bodyExcerpt as cs (leadingTexts rest))
      | _ => none
  | _ => none

/-- the excerpt of a markup text -/
def Excerpt.read (s : Text) : Except Fault Excerpt := do
  if declaresEncoding s then throw .declaredEncoding
  match (Node.ofTokens (Token.read s)).find? fun n => n.name?.isSome with
  | none => throw .emptyDocument
  | some root =>
    if isWhole s then return ⟨root, []⟩
    else
      match fragmentExcerpt? root with
      | some e => return e
      | none => throw .noBody

end Mailroom.Html
