import Mailroom.Codec.Utf8
import Mailroom.Html.Document

/-!
# Cleaning

A mail may come from anyone, so its markup is reduced to what a reader needs: programs, styles, frames,
controls and comments are taken out with all they hold, forms, embedded objects and unknown elements are
taken out but for what they hold, and of the attributes only those remain that do no harm.

* `Fate`             what happens to elements of a name;
* `cleanValue`       the value of an attribute, emptied if it could run a program;
* `Excerpt.clean`    an excerpt cleaned;
* `clean`            a markup text cleaned and written.
-/

namespace Mailroom.Html

/-! ## attributes -/

/-- the attributes that remain -/
def harmlessAttributes : List Text :=
  wordSet ("abbr accept accept-charset accesskey action align alt axis border cellpadding cellspacing "
    ++ "char charoff charset checked cite class clear cols colspan color compact coords datetime dir "
    ++ "disabled enctype for frame headers height href hreflang hspace id ismap label lang longdesc "
    ++ "maxlength media method multiple name nohref noshade nowrap prompt readonly rel rev rows rowspan "
    ++ "rules scope selected shape size span src start summary tabindex target title type usemap valign "
    ++ "value vspace width")

/-- the attributes that remain and hold a link -/
def linkAttributes : List Text := wordSet "action cite href longdesc src usemap"

/-- what a link can begin with that makes it run a program, or hold its own content -/
def programSchemes : List Text :=
  wordSet "javascript: jscript: livescript: vbscript: data: about: mocha:"

/-- a character without its case, as schemes are compared -/
def foldSchemeChar (c : Char) : Char :=
  if c = 'ſ' then 's' else if c = 'ı' ∨ c = 'İ' then 'i' else c.toLower

/-- a link as a program could read it: decoded, without blanks and control characters and without case -/
def bareLink (v : Text) : Text :=
  let decoded := Utf8.repair (Percent.decode (Utf8.encode (Text.replaceChar '+' " " v)))
  (decoded.filter fun c => !(Text.isBlank c || c.toNat ≤ 0x19)).map foldSchemeChar

/-- the text before the last occurrence of `w`, which is not at the beginning -/
def beforeLast? (w : Text) : Text → Option Text
  | [] => none
  | c :: r =>
    match beforeLast? w r with
    | some t => some (c :: t)
    | none => if w.isPrefixOf r then some [c] else none

/-- what an image within a link is said to be -/
def imageType? : Text → Option Text
  | [] => none
  | c :: r =>
    match Text.after? "data:image/" (c :: r) with
    | some t => beforeLast? ";base64," t
    | none => imageType? r

/-- the places of a text where one of the schemes stands -/
def schemeCount : Text → Nat
  | [] => 0
  | c :: r => (if programSchemes.any (·.isPrefixOf (c :: r)) then 1 else 0) + schemeCount r

/-- whether a link could run a program; an image within a link is no program unless it can hold one -/
def runsProgram (v : Text) : Bool :=
  let s := bareLink v
  match imageType? s with
  | none => 0 < schemeCount s
  | some t => Text.occursIn "xml" t || Text.occursIn "svg" t || 1 < schemeCount s

/-- a link without the blanks around it, or nothing if it could run a program -/
def cleanLink (v : Text) : Text := if runsProgram (Text.trim v) then [] else Text.trim v

/-- the value of an attribute that remains -/
def cleanValue (name value : Text) : Text :=
  if linkAttributes.contains name then cleanLink value else value

/-- the attributes that remain -/
def cleanAttributes (as : List Attribute) : List Attribute :=
  (as.filter fun a => harmlessAttributes.contains a.name).map fun a =>
    ⟨a.name, a.value.map (cleanValue a.name)⟩

/-! ## elements -/

/-- what happens to an element -/
inductive Fate where
  /-- it goes with all it holds -/
  | remove
  /-- it goes, and what it holds takes its place -/
  | unwrap
  /-- it goes as an unknown element does, and what it holds takes its place -/
  | unknown
  | keep
deriving DecidableEq, Repr

/-- the elements that go with all they hold -/
def removedNames : List Text :=
  wordSet ("script style link meta applet frameset frame noframes button input select textarea")

/-- the elements of which what they hold remains -/
def unwrappedNames : List Text :=
  wordSet "span iframe embed layer object param form blink marquee"

/-- the elements that can remain -/
def knownNames : List Text :=
  wordSet ("html head body frameset base isindex link meta script style title address blockquote center "
    ++ "del div h1 h2 h3 h4 h5 h6 hr ins noscript p pre dir dl dt dd li menu ol ul table caption "
    ++ "colgroup col thead tfoot tbody tr td th form button fieldset legend input label select optgroup "
    ++ "option textarea a applet basefont bdo br embed font iframe img map area object param q span sub "
    ++ "sup abbr acronym cite code dfn em kbd samp strong var b big i s small strike tt u blink marquee "
    ++ "article aside audio canvas command datalist details figcaption figure footer header hgroup "
    ++ "keygen mark math meter nav output progress rp rt ruby section source summary svg time track "
    ++ "video wbr")

/-- what happens to the elements of a name -/
def Fate.of (name : Text) : Fate :=
  if removedNames.contains name then .remove
  else if unwrappedNames.contains name then .unwrap
  else if knownNames.contains name then .keep
  else .unknown

/-- the name under which an element remains -/
def cleanName (name : Text) : Text := if name = "image".toList then "img" else name

/-- what happens to a node within another -/
def Node.fate : Node → Fate
  | .text _ | .verbatim _ => .keep
  | .comment _ => .remove
  | .element name _ _ => Fate.of (cleanName name)

/-! ## sweeping -/

/-- a character that a text can be given -/
def isWritable (c : Char) : Bool :=
  (0x20 ≤ c.toNat || c == '\t' || c == '\n' || c == '\x0d') && c != '\ufffe' && c != '\uffff'

/-- a text moved behind nodes that come last first, as one with the texts there -/
def moveText (s : Text) (done : List Node) : Except Fault (List Node) :=
  if s.isEmpty then .ok done
  else
    let texts := done.takeWhile fun n => n.text?.isSome
    let joined := (texts.reverse.flatMap fun n => n.text?.getD []) ++ s
    if joined.all isWritable then .ok (.text joined :: done.drop texts.length)
    else .error .controlCharacter

/-- what is swept so far, last first, and whether the text that follows has to be moved -/
structure Swept where
  done : List Node
  moving : Bool

/-- a text swept -/
def sweepText (n : Node) (s : Text) (w : Swept) : Except Fault Swept :=
  if w.moving then return ⟨← moveText s w.done, true⟩ else return ⟨n :: w.done, false⟩

mutual

/-- a node swept -/
def sweep (w : Swept) : Node → Except Fault Swept
  | .text s => sweepText (.text s) s w
  | .verbatim s => sweepText (.verbatim s) s w
  | .comment _ => return ⟨w.done, true⟩
  | .element name attributes children =>
    match Fate.of (cleanName name) with
    | .remove => return ⟨w.done, true⟩
    | .unwrap | .unknown => return ⟨(← sweepAll ⟨w.done, true⟩ children).done, true⟩
    | .keep => do
      let inner ← sweepAll ⟨[], false⟩ children
      return ⟨.element (cleanName name) (cleanAttributes attributes) inner.done.reverse :: w.done, false⟩

/-- neighbours swept -/
def sweepAll (w : Swept) : List Node → Except Fault Swept
  | [] => return w
  | n :: ns => do sweepAll (← sweep w n) ns

end

/-- the children of an element swept -/
def sweepChildren (children : List Node) : Except Fault (List Node) := do
  return (← sweepAll ⟨[], false⟩ children).done.reverse

/-- whether a child cannot be taken out of an outermost element that has been emptied -/
def staysBehind (root : Text) (child : Node) : Bool :=
  match child.fate with
  | .remove => true
  | .unwrap => !child.isNamed "param" || root == "applet".toList
  | .unknown | .keep => false

/-- an excerpt cleaned; its outermost element cannot be taken out, so a neutral one replaces it -/
def Excerpt.clean (e : Excerpt) : Except Fault Excerpt := do
  match e.root with
  | .element name attributes children =>
    let name := cleanName name
    if name = "param".toList then throw .detachedElement
    match Fate.of name with
    | .remove =>
      if children.any (staysBehind name) then throw .detachedElement
      return ⟨.element "div" [] [], []⟩
    | .unwrap | .unknown => return ⟨.element "div" [] (← sweepChildren children), e.tail⟩
    | .keep => return ⟨.element name (cleanAttributes attributes) (← sweepChildren children), e.tail⟩
  | _ => throw .onlyComment

/-- a markup text cleaned -/
def clean (s : Text) : Except Fault Text := do
  return (← (← Excerpt.read s).clean).write

end Mailroom.Html
