import Mailroom.Codec.Charset
import Mailroom.Text.Blank

/-!
# Header values as trees

A header value is read into a tree whose leaves are runs of characters and whose nodes are the forms
of the grammar of mail headers.  The tree keeps every character, so it can be written again, and it
knows where the value departs from the grammar.

* `Token.text`        the value as it is written, encoded words decoded and quotes in their plain form;
* `Token.value`       what it means: comments and blanks are single spaces, quotes are taken off;
* `Token.hasFault`    whether some form in it is faulty rather than merely old-fashioned.
-/

namespace Mailroom.Header

/-- what a run of characters stands for -/
inductive Leaf where
  /-- blanks, meaning one space -/
  | space
  /-- blanks between two encoded words, meaning nothing -/
  | gap
  /-- the inside of a comment -/
  | remark
  /-- the inside of a quoted string or of a bracketed domain -/
  | quoted
  /-- other characters without blanks -/
  | plain
  | dot
  | comma
  /-- a mark of the grammar, or one out of place -/
  | mark
deriving DecidableEq, Repr

/-- the forms of header values -/
inductive Form where
  | unstructured
  | phrase
  | displayName
  /-- blanks and comments -/
  | filler
  | comment
  | atom
  | encodedWord
  /-- a quoted string with the fillers around it -/
  | quotedString
  /-- a quoted string by itself -/
  | quotedText
  | dotAtom
  | dotAtomText
  | localPart
  /-- a local part with fillers around its dots -/
  | looseLocalPart
  | domain
  | domainLiteral
  | addrSpec
  | angleAddr
  | route
  | nameAddr
  | mailbox
  /-- a mailbox with a fault -/
  | brokenMailbox
  /-- what stands in the place of a mailbox and is none -/
  | nonMailbox
  | mailboxList
  | groupList
  | group
  | address
  | addressList
  /-- a word of a structured value -/
  | word
  | version
  | mediaType
  | disposition
  | transferEncoding
  | messageId
  | identifier
  | literal
  | label
  /-- any sequence -/
  | sequence
deriving DecidableEq, Repr

/-- how far a form departs from the grammar -/
inductive Flaw where
  | none
  /-- it follows an older grammar -/
  | old
  | fault
deriving DecidableEq, Repr

/-- the graver of two flaws -/
def Flaw.max : Flaw → Flaw → Flaw
  | .fault, _ => .fault
  | _, .fault => .fault
  | .old, _ => .old
  | _, .old => .old
  | .none, .none => .none

/-- a header value or a part of one -/
inductive Token where
  | leaf (kind : Leaf) (chars : Text)
  | node (form : Form) (flaw : Flaw) (parts : List Token)
  /-- the parameters behind a structured value, names and values in order -/
  | parameters (entries : List (Text × Text))
deriving Repr

/-- a text between quotes, with a backslash in front of quotes and backslashes -/
def quote (s : Text) : Text :=
  '"' :: s.flatMap (fun c => if c = '"' ∨ c = '\\' then ['\\', c] else [c]) ++ ['"']

/-- the inside of a comment, with a backslash in front of parentheses and backslashes -/
def escapeRemark (s : Text) : Text :=
  s.flatMap fun c => if c = '(' ∨ c = ')' ∨ c = '\\' then ['\\', c] else [c]

/-- parameters as they are written: a semicolon and a space between them, no `=` without a value -/
def parametersText (entries : List (Text × Text)) : Text :=
  match entries.map fun e => if e.2.isEmpty then e.1 else e.1 ++ '=' :: quote e.2 with
  | [] => []
  | ps => ' ' :: [';', ' '].intercalate ps

namespace Token

/-- a form without a flaw -/
def form (f : Form) (parts : List Token) : Token := node f .none parts

/-- a leaf that is a mark -/
def markChar (c : Char) : Token := leaf .mark [c]

/-- the form of a node -/
def form? : Token → Option Form
  | node f _ _ => some f
  | _ => none

/-- whether the token is a node of the form -/
def isForm (f : Form) (t : Token) : Bool := t.form? == some f

/-- whether the token is a leaf of the kind -/
def isLeaf (k : Leaf) : Token → Bool
  | leaf k' _ => k' == k
  | _ => false

/-- the parts of a node, none for other tokens -/
def parts : Token → List Token
  | node _ _ ps => ps
  | _ => []

/-- a node with its flaw made at least as grave -/
def flawed (f : Flaw) : Token → Token
  | node k f' ps => node k (f'.max f) ps
  | t => t

/-- a node with more parts in front -/
def prepend (front : List Token) : Token → Token
  | node k f ps => node k f (front ++ ps)
  | t => t

/-- a node with more parts at the end -/
def extend (back : List Token) : Token → Token
  | node k f ps => node k f (ps ++ back)
  | t => t

mutual

/-- the token as it is written -/
def text : Token → Text
  | leaf .gap _ => []
  | leaf _ s => s
  | node .quotedText _ ps => quote (textAll ps)
  | node .comment _ ps => '(' :: remarkAll ps ++ [')']
  | node _ _ ps => textAll ps
  | parameters es => parametersText es

/-- tokens as they are written, one after the other -/
def textAll : List Token → Text
  | [] => []
  | t :: ts => text t ++ textAll ts

/-- the inside of a comment as it is written -/
def remarkAll : List Token → Text
  | [] => []
  | t :: ts => (if isForm .comment t then text t else escapeRemark (text t)) ++ remarkAll ts

end

mutual

/-- what the token means -/
def value : Token → Text
  | leaf .gap _ => []
  | leaf .space _ | leaf .remark _ => [' ']
  | leaf _ s => s
  | node .filler _ _ | node .comment _ _ => [' ']
  | node .quotedText _ ps => textAll ps
  | node _ _ ps => valueAll ps
  | parameters es => parametersText es

/-- what tokens mean, one after the other -/
def valueAll : List Token → Text
  | [] => []
  | t :: ts => value t ++ valueAll ts

end

mutual

/-- whether some form of the token is faulty -/
def hasFault : Token → Bool
  | node _ f ps => f == .fault || anyFault ps
  | _ => false

/-- whether some form of some token is faulty -/
def anyFault : List Token → Bool
  | [] => false
  | t :: ts => hasFault t || anyFault ts

end

end Token
end Mailroom.Header
