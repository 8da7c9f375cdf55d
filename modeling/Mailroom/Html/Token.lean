import Mailroom.Html.Node
import Mailroom.Html.Reference

/-!
# The pieces of a markup text

A markup text is a row of texts, comments and tags.  An angle bracket that begins none of them is
text.  The content of a few elements is no markup: it reaches to the end tag of the element.

* `Token`         a piece;
* `Tag.read`      the attributes and the end of a tag;
* `Token.read`    the pieces of a text.
-/

namespace Mailroom.Html

/-- a piece of a markup text -/
inductive Token where
  | text (s : Text)
  /-- content of an element that holds no markup -/
  | verbatim (s : Text)
  | comment (s : Text)
  /-- a start tag; `closed` tells whether it ends its element too -/
  | start (name : Text) (attributes : List Attribute) (closed : Bool)
  /-- a start tag that is cut off by the end of the text -/
  | cut (name : Text)
  | finish (name : Text)
deriving Repr

/-- white space of markup -/
def isSpace (c : Char) : Bool := c == ' ' || c == '\t' || c == '\n' || c == '\x0c' || c == '\x0d'

/-- a character that ends the name of a tag -/
def endsName (c : Char) : Bool := isSpace c || c == '/' || c == '>'

namespace Tag

/-- how a tag ends -/
inductive Ending where
  /-- with `>` -/
  | plain
  /-- with `/>` -/
  | closed
  /-- with the end of the text -/
  | cut
deriving DecidableEq, Repr

/-- the value of an attribute behind its equals sign, and the rest of the text; none if its closing
quote is missing -/
def takeValue? (s : Text) : Option (Text × Text) :=
  let upTo (quote : Char) (r : Text) : Option (Text × Text) :=
    match Text.cutAt quote r with
    | (v, some rest) => some (Reference.resolve .attribute v, rest)
    | (_, none) => none
  match s.dropWhile isSpace with
  | '"' :: r => upTo '"' r
  | '\'' :: r => upTo '\'' r
  | r =>
    let v := r.takeWhile fun c => !(isSpace c || c == '>')
    some (Reference.resolve .attribute v, r.drop v.length)

/-- the attributes of a tag behind its name, how it ends, and the rest of the text; every round takes
a character at least -/
def readWithin : Nat → Text → List Attribute × Ending × Text
  | 0, _ => ([], .cut, [])
  | n + 1, s =>
    match s.dropWhile isSpace with
    | [] => ([], .cut, [])
    | '>' :: r => ([], .plain, r)
    | '/' :: '>' :: r => ([], .closed, r)
    | '/' :: r => readWithin n r
    | c :: r =>
      let more := r.takeWhile fun c => !(endsName c || c == '=')
      let name := Text.asciiLower (c :: more)
      match (r.drop more.length).dropWhile isSpace with
      | '=' :: r =>
        match takeValue? r with
        | none => ([], .cut, [])
        | some (v, rest) =>
          let (as, ending, rest) := readWithin n rest
          (⟨name, some v⟩ :: as, ending, rest)
      | r =>
        let (as, ending, rest) := readWithin n r
        (⟨name, none⟩ :: as, ending, rest)

/-- of attributes with one name the first -/
def withoutRepeats : List Attribute → List Attribute
  | [] => []
  | a :: as => a :: (withoutRepeats as).filter fun b => b.name != a.name

/-- the attributes of a tag behind its name, how it ends, and the rest of the text -/
def read (s : Text) : List Attribute × Ending × Text :=
  let (as, ending, rest) := readWithin (s.length + 1) s
  (withoutRepeats as, ending, rest)

end Tag

namespace Token

/-! ## content that is no markup -/

/-- what the content of an element is -/
inductive Content where
  | markup
  /-- text with references up to the end tag -/
  | referring
  /-- text up to the end tag -/
  | verbatim
  /-- text up to the end tag, where comments can hide an end tag -/
  | program
  /-- all that is left -/
  | all
deriving DecidableEq, Repr

/-- what the content of the elements of a name is -/
def contentOf (name : Text) : Content :=
  if (wordSet "textarea title").contains name then .referring
  else if (wordSet "iframe noembed noframes style xmp").contains name then .verbatim
  else if name = "script".toList then .program
  else if name = "plaintext".toList then .all
  else .markup

/-- whether a tag with this beginning and this name stands at the front of a text -/
def startsTag (opening name : Text) (s : Text) : Bool :=
  let n := opening.length + name.length
  Text.asciiLower (s.take n) == opening ++ name && (s.drop n).head?.any endsName

/-- the text before the end tag of the element `name`, and the text from it on -/
def untilEndTag (name : Text) : Text → Text × Text
  | [] => ([], [])
  | c :: r =>
    if startsTag "</" name (c :: r) then ([], c :: r)
    else
      let (a, b) := untilEndTag name r
      (c :: a, b)

/-- how deep in comments and in tags within comments a program text stands -/
inductive Cover where
  | none
  | comment
  | tag
deriving DecidableEq, Repr

/-- the cover of what follows the first character of a program text -/
def Cover.next (cover : Cover) (s : Text) : Cover :=
  match cover with
  | .none => if "<!--".toList.isPrefixOf s then .comment else .none
  | .comment =>
    if "-->".toList.isPrefixOf s then .none
    else if startsTag "<" "script" s then .tag
    else .comment
  | .tag =>
    if "-->".toList.isPrefixOf s then .none
    else if startsTag "</" "script" s then .comment
    else .tag

/-- the text of a program before its end tag, and the text from the end tag on -/
def untilProgramEnd (cover : Cover) : Text → Text × Text
  | [] => ([], [])
  | c :: r =>
    if cover ≠ .tag && startsTag "</" "script" (c :: r) then ([], c :: r)
    else
      let (a, b) := untilProgramEnd (cover.next (c :: r)) r
      (c :: a, b)

/-- the pieces of the content of an element without markup, and the text behind them -/
def takeContent (name s : Text) : List Token × Text :=
  let piece (make : Text → Token) (p : Text × Text) : List Token × Text :=
    (if p.1.isEmpty then [] else [make p.1], p.2)
  match contentOf name with
  | .markup => ([], s)
  | .referring => piece (fun t => text (Reference.resolve .text t)) (untilEndTag name s)
  | .verbatim => piece verbatim (untilEndTag name s)
  | .program => piece verbatim (untilProgramEnd .none s)
  | .all => piece verbatim (s, [])

/-! ## comments and declarations -/

/-- the text of a comment and the rest, behind the two dashes that open it -/
def untilCommentEnd : Text → Text × Text
  | [] => ([], [])
  | '-' :: '-' :: '>' :: r => ([], r)
  | '-' :: '-' :: '!' :: '>' :: r => ([], r)
  | c :: r =>
    let (a, b) := untilCommentEnd r
    (c :: a, b)

/-- a comment and the rest, behind the two dashes that open it -/
def takeComment : Text → Text × Text
  | '>' :: r => ([], r)
  | '-' :: '>' :: r => ([], r)
  | s => untilCommentEnd s

/-- the text up to the next `>`, and the rest behind it -/
def untilBracket (s : Text) : Text × Text :=
  let (a, b) := Text.cutAt '>' s
  (a, b.getD [])

/-- a declaration behind its `<!`: a comment, or a document type, which says nothing -/
def takeDeclaration : Text → List Token × Text
  | '-' :: '-' :: r =>
    let (c, rest) := takeComment r
    ([comment c], rest)
  | s =>
    let (c, rest) := untilBracket s
    (if Text.asciiLower (s.take 7) = "doctype".toList then [] else [comment c], rest)

/-! ## tags and texts -/

/-- a start tag with the content that is no markup, behind its `<` -/
def takeStart (s : Text) : List Token × Text :=
  let name := Text.asciiLower (s.takeWhile fun c => !endsName c)
  match Tag.read (s.drop name.length) with
  | (_, .cut, rest) => ([cut name], rest)
  | (as, .closed, rest) => ([start name as true], rest)
  | (as, .plain, rest) =>
    let (content, rest) := takeContent name rest
    (start name as false :: content, rest)

/-- an end tag, behind its `</` -/
def takeFinish (s : Text) : List Token × Text :=
  let name := Text.asciiLower (s.takeWhile fun c => !endsName c)
  match Tag.read (s.drop name.length) with
  | (_, .cut, rest) => ([], rest)
  | (_, _, rest) => ([finish name], rest)

/-- whether a text begins with a comment or a tag -/
def startsMarkup : Text → Bool
  | '<' :: '/' :: r => !r.isEmpty
  | '<' :: c :: _ => c == '!' || c == '?' || Text.isAsciiLetter c
  | _ => false

/-- the characters before the first comment or tag, and the rest -/
def untilMarkup : Text → Text × Text
  | [] => ([], [])
  | c :: r =>
    if startsMarkup (c :: r) then ([], c :: r)
    else
      let (a, b) := untilMarkup r
      (c :: a, b)

/-- the comment or the tag at the front of a text, and the rest -/
def takeMarkup : Text → List Token × Text
  | '<' :: '/' :: '>' :: r => ([], r)
  | '<' :: '/' :: c :: r =>
    if Text.isAsciiLetter c then takeFinish (c :: r)
    else
      let (t, rest) := untilBracket (c :: r)
      ([comment t], rest)
  | '<' :: '!' :: r => takeDeclaration r
  | '<' :: '?' :: r =>
    let (t, rest) := untilBracket ('?' :: r)
    ([comment t], rest)
  | '<' :: r => takeStart r
  | s => ([], s.drop 1)

/-- the pieces of a text; every round takes a character at least -/
def readWithin : Nat → Text → List Token
  | 0, _ => []
  | _, [] => []
  | n + 1, s =>
    match untilMarkup s with
    | ([], s) =>
      let (ts, rest) := takeMarkup s
      ts ++ readWithin n rest
    | (t, rest) => text (Reference.resolve .text t) :: readWithin n rest

/-- a text with line breaks of one kind and without the character zero -/
def prepared : Text → Text
  | [] => []
  | '\x0d' :: '\n' :: r => '\n' :: prepared r
  | '\x0d' :: r => '\n' :: prepared r
  | c :: r => (if c = '\x00' then Reference.replacement else c) :: prepared r

/-- the pieces of a text -/
def read (s : Text) : List Token :=
  let s := prepared s
  readWithin s.length s

end Token

end Mailroom.Html
