import Mailroom.Html.Token

/-!
# The tree of a markup text

The pieces of a text build its tree.  Tags may be missing: a start tag ends the elements that cannot
hold it, and opens the `html`, `head` and `body` that it needs; an end tag ends all elements inside the
one it names, unless an element that counts more stands between.  Tags that cannot stand where they
stand are passed over.

* `Builder`         the elements that are open, and what is finished;
* `Builder.take`    what a piece does to them;
* `Node.ofTokens`   the trees that pieces build, which stand side by side on the top level.

Main statement: an element's end leaves nothing of it open (`length_stack_close`).
-/

namespace Mailroom.Html

/-! ## rules about names -/

/-- the start tags that end an open element -/
def endedBy : List (String × String) := [
  ("a", "a fieldset table td th"),
  ("address", "dd dl dt form li ul"),
  ("b", "center p td th"),
  ("big", "p"),
  ("caption", "col colgroup tbody tfoot thead tr"),
  ("col", "col colgroup tbody tfoot thead tr"),
  ("colgroup", "colgroup tbody tfoot thead tr"),
  ("dd", "dt"),
  ("dir", "dd dl dt form ul"),
  ("dl", "form li"),
  ("dt", "dd dl"),
  ("font", "center td th"),
  ("form", "form"),
  ("h1", "fieldset form li p table"),
  ("h2", "fieldset form li p table"),
  ("h3", "fieldset form li p table"),
  ("h4", "fieldset form li p table"),
  ("h5", "fieldset form li p table"),
  ("h6", "fieldset form li p table"),
  ("head", "a abbr acronym address b bdo big blockquote body br center cite code dd dfn dir div dl dt "
    ++ "em fieldset font form frameset h1 h2 h3 h4 h5 h6 hr i iframe img kbd li listing map menu ol p "
    ++ "pre q s samp small span strike strong sub sup table tt u ul var xmp"),
  ("hr", "form"),
  ("i", "center p"),
  ("legend", "fieldset"),
  ("li", "li"),
  ("link", "body frameset"),
  ("listing", "dd dl dt fieldset form li table ul"),
  ("menu", "dd dl dt form ul"),
  ("ol", "form"),
  ("option", "optgroup option"),
  ("p", "address blockquote body caption center col colgroup dd dir div dl dt fieldset form frameset "
    ++ "h1 h2 h3 h4 h5 h6 head hr li listing menu ol p pre table tbody td tfoot th title tr ul xmp"),
  ("pre", "dd dl dt fieldset form li table ul"),
  ("s", "p"),
  ("script", "noscript"),
  ("small", "p"),
  ("span", "td th"),
  ("strike", "p"),
  ("style", "body frameset"),
  ("tbody", "tbody tfoot"),
  ("td", "tbody td tfoot th tr"),
  ("tfoot", "tbody"),
  ("th", "tbody td tfoot th tr"),
  ("thead", "tbody tfoot"),
  ("title", "body frameset"),
  ("tr", "tbody tfoot tr"),
  ("tt", "p"),
  ("u", "p td th"),
  ("ul", "address form menu ol pre"),
  ("xmp", "dd dl dt fieldset form li table ul")]

/-- whether the start tag `new` ends the open element `old` -/
def endsElement (new old : Text) : Bool :=
  endedBy.any fun e => e.1.toList == old && (wordSet e.2).contains new

/-- how much an open element counts against the end tag of another -/
def weight (name : Text) : Nat :=
  if name = "div".toList then 150
  else if (wordSet "td th").contains name then 160
  else if name = "tr".toList then 170
  else if (wordSet "thead tbody tfoot").contains name then 180
  else if name = "table".toList then 190
  else if (wordSet "head body").contains name then 200
  else if name = "html".toList then 220
  else 100

/-- the elements that frame a document -/
def frameNames : List Text := wordSet "html head body"

/-! ## open elements -/

/-- an element that is not finished; its children come last first -/
structure Opened where
  name : Text
  attributes : List Attribute
  children : List Node
deriving Repr

/-- the element as it is when it ends -/
def Opened.finished (o : Opened) : Node := .element o.name o.attributes o.children.reverse

/-- how far the frame of a document has come -/
inductive Stage where
  | start
  | head
  | body
deriving DecidableEq, Repr

/-- the state of a document half way -/
structure Builder where
  /-- the open elements, the innermost first -/
  stack : List Opened
  /-- what is finished on the top level, last first -/
  done : List Node
  /-- the misplaced start tags whose end tags are still to come -/
  misplaced : Nat
  stage : Stage
deriving Repr

namespace Builder

/-- the state before the first piece -/
def empty : Builder := ⟨[], [], 0, .start⟩

/-- a finished node put into the innermost element -/
def add (n : Node) (b : Builder) : Builder :=
  match b.stack with
  | o :: os =>
    { b with stack := { o with children := n :: o.children } :: os }
  | [] => { b with done := n :: b.done }

/-- text put into the innermost element, as one with text before it; there is none on the top level -/
def addText (s : Text) (b : Builder) : Builder :=
  match b.stack with
  | [] => b
  | o :: os =>
    let children := match o.children with
      | .text t :: ns => .text (t ++ s) :: ns
      | ns => .text s :: ns
    { b with stack := { o with children := children } :: os }

/-- an element begun -/
def push (name : Text) (attributes : List Attribute) (b : Builder) : Builder :=
  let stage :=
    if name = "body".toList then .body
    else if name = "head".toList ∧ b.stage = .start then .head
    else b.stage
  { b with stack := ⟨name, attributes, []⟩ :: b.stack, stage := stage }

/-- the innermost element ended -/
def close (b : Builder) : Builder :=
  match b.stack with
  | [] => b
  | o :: os => add o.finished { b with stack := os }

theorem length_stack_close (b : Builder) : b.close.stack.length = b.stack.length - 1 := by
  unfold close
  cases hb : b.stack with
  | nil => simp [hb]
  | cons o os => cases os <;> simp [add]

/-- the innermost `n` elements ended -/
def closeMany : Nat → Builder → Builder
  | 0, b => b
  | n + 1, b => closeMany n b.close

/-- whether an element of a name is open -/
def isOpen (name : Text) (b : Builder) : Bool := b.stack.any (·.name == name)

/-! ## tags -/

/-- the elements ended that cannot hold a tag -/
def makeRoom (name : Text) (b : Builder) : Builder :=
  closeMany (b.stack.takeWhile fun o => endsElement name o.name).length b

/-- the frame opened that a tag needs -/
def frame (name : Text) (b : Builder) : Builder :=
  if name = "html".toList then b
  else
    let b := if b.stack.isEmpty then b.push "html" [] else b
    if name = "body".toList ∨ name = "head".toList then b
    else if b.stack.length ≤ 1 ∧ (wordSet "script style meta link title base").contains name then
      if b.stage = .start then b.push "head" [] else b
    else if (wordSet "noframes frame frameset").contains name then b
    else if b.stage = .body ∨ b.isOpen "body" ∨ b.isOpen "head" then b
    else b.push "body" []

/-- whether a start tag stands where none of its name can stand -/
def isMisplaced (name : Text) (b : Builder) : Bool :=
  (name == "html".toList && !b.stack.isEmpty)
    || (name == "head".toList && b.stack.length != 1)
    || (name == "body".toList && b.isOpen name)

/-- what a start tag does -/
def start (name : Text) (attributes : List Attribute) (closed : Bool) (b : Builder) : Builder :=
  let b := frame name (makeRoom name b)
  if b.isMisplaced name then { b with misplaced := b.misplaced + 1 }
  else
    let b := b.push name attributes
    if closed || isVoid name then b.close else b

/-- how many of the open elements an end tag ends -/
def reach (name : Text) (names : List Text) : Nat :=
  match names with
  | [] => 0
  | n :: ns =>
    if n = name then 1
    else if weight name < weight n then 0
    else
      match reach name ns with
      | 0 => 0
      | k + 1 => k + 2

/-- what an end tag does -/
def finish (name : Text) (b : Builder) : Builder :=
  if 0 < b.misplaced ∧ name ∈ frameNames then { b with misplaced := b.misplaced - 1 }
  else closeMany (reach name (b.stack.map (·.name))) b

/-- whether text cannot stand in the innermost element -/
def refusesText (b : Builder) : Bool :=
  match b.stack with
  | [] => true
  | o :: _ => o.name == "html".toList || o.name == "head".toList

/-- what a text does: white space can stand anywhere, other text needs the body -/
def text (s : Text) (b : Builder) : Builder :=
  if b.refusesText then
    let blanks := s.takeWhile isSpace
    let b := if blanks.isEmpty then b else b.addText blanks
    match s.drop blanks.length with
    | [] => b
    | rest =>
      let b := if b.stack.head?.any (·.name == "head".toList) then makeRoom "p" b else b
      (frame "p" b).addText rest
  else b.addText s

/-- what a piece does -/
def take (b : Builder) : Token → Builder
  | .text s => b.text s
  | .verbatim s => b.add (.verbatim s)
  | .comment s => b.add (.comment s)
  | .start name attributes closed => b.start name attributes closed
  | .cut name => frame name (makeRoom name b)
  | .finish name => b.finish name

/-- all elements ended -/
def finishAll (b : Builder) : Builder := closeMany b.stack.length b

end Builder

/-- the trees that pieces build -/
def Node.ofTokens (ts : List Token) : List Node :=
  (ts.foldl Builder.take Builder.empty).finishAll.done.reverse

end Mailroom.Html
