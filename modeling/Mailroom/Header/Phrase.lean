import Mailroom.Codec.Base64
import Mailroom.Codec.QuotedPrintable
import Mailroom.Header.Scan

/-!
# Words and phrases

The forms below the level of addresses: blanks, encoded words, comments, quoted strings, atoms and
the phrases made of them, and unstructured values, which are blanks, encoded words and other runs.

An encoded word `=?charset?q?…?=` is decoded where it stands.  White space between two encoded words
means nothing, neither in unstructured values nor in quoted strings.
-/

namespace Mailroom.Header

/-! ## classes of characters -/

/-- a space or a tab -/
def isSpace (c : Char) : Bool := c == ' ' || c == '\t'

/-- the marks with a meaning in structured values -/
def isSpecial (c : Char) : Bool := "()<>@,:;.\\\"[]".toList.contains c

/-- the front of a filler -/
def opensFiller (c : Char) : Bool := isSpace c || c == '('

/-- what an atom cannot hold -/
def endsAtom (c : Char) : Bool := isSpecial c || isSpace c

/-- what an atom with dots in it cannot hold -/
def endsDotAtom (c : Char) : Bool := endsAtom c && c != '.'

/-- what ends a phrase -/
def endsPhrase (c : Char) : Bool := isSpecial c && c != '.' && c != '"' && c != '('

/-- what ends a word of a structured value -/
def endsWord (c : Char) : Bool :=
  (isSpecial c && c != '.') || c == '/' || c == '?' || c == '=' || isSpace c

/-- what ends the name of a parameter -/
def endsAttribute (c : Char) : Bool := endsWord c || c == '*' || c == '\'' || c == '%'

/-- what ends a parameter's value in extended form -/
def endsExtended (c : Char) : Bool := endsAttribute c && c != '%'

/-! ## encoded words -/

/-- the characters up to the first space or tab, and the rest -/
def cutBlank (s : Text) : Text × Text :=
  (s.takeWhile fun c => !isSpace c, s.dropWhile fun c => !isSpace c)

/-- the text before the first `mark`, and the text after it if there is one -/
def cutBefore (mark : Text) : Text → Text × Option Text
  | [] => ([], none)
  | c :: r =>
    match Text.after? mark (c :: r) with
    | some rest => ([], some rest)
    | none => ((c :: (cutBefore mark r).1), (cutBefore mark r).2)

/-- blanks and runs in turn, at most `fuel` of them -/
def runsUpTo : Nat → Text → List Token
  | 0, _ => []
  | _, [] => []
  | n + 1, c :: r =>
    if isSpace c then
      .leaf .space ((c :: r).takeWhile Text.isBlank) :: runsUpTo n (Text.trimStart (c :: r))
    else .leaf .plain (cutBlank (c :: r)).1 :: runsUpTo n (cutBlank (c :: r)).2

/-- the octets of the inside of an encoded word, for the letter of its encoding -/
def wordOctets? (letter inside : Text) : Option Octets :=
  match letter with
  | ['q'] | ['Q'] => some (QuotedPrintable.decodeWord (Text.toMail inside))
  | ['b'] | ['B'] => some (Base64.decodeLax (Text.toMail inside))
  | _ => none

/-- octets as characters of a named set, ASCII if there is no such set; only octets above 127 are kept
when they are no characters -/
def wordText? (charset : Text) (b : Octets) : Option Text :=
  let cs := (Charset.named? charset).getD .ascii
  if !Charset.isName charset then none
  else if b.isEmpty then some []
  else if (cs.pieces b).all keeps && cs ≠ .undefined then some (cs.keeping b)
  else none
where
  keeps : Piece → Bool
    | .char _ => true
    | .bad o => o.head?.any (128 ≤ ·)

/-- what stands where an encoded word may begin -/
inductive WordReading where
  | word (t : Token) (rest : Text)
  /-- the marks of an encoded word with an inside that cannot be read -/
  | broken
  | absent

/-- the encoded word at the front of a text -/
def readEncodedWord (s : Text) : WordReading :=
  match Text.after? "=?" s with
  | none => .absent
  | some s =>
    match cutBefore "?=" s with
    | (_, none) => .absent
    | (inside, some after) =>
      let (inside, after) :=
        match after with
        | a :: b :: _ =>
          if (Text.hexDigit? a).isSome && (Text.hexDigit? b).isSome && inside.count '?' < 2 then
            (inside ++ "?=" ++ (cutBefore "?=" after).1, (cutBefore "?=" after).2.getD [])
          else (inside, after)
        | _ => (inside, after)
      match Text.splitOn '?' inside with
      | [charset, letter, chars] =>
        match (if chars.all fun c => Text.isAscii c || (Text.rawOctet? c).isSome then
            wordOctets? letter chars else none).bind (wordText? (Text.cutAt '*' charset).1) with
        | none => .broken
        | some t =>
          let flaw := if 1 < (Text.words inside).length || after.head?.any fun c => !isSpace c
            then Flaw.fault else .none
          .word (.node .encodedWord flaw (runsUpTo t.length t)) after
      | _ => .broken

/-- whether an encoded word stands somewhere in a text -/
def holdsEncodedWord : Text → Bool
  | [] => false
  | c :: r =>
    (match Text.after? "=?" (c :: r) with
      | none => false
      | some s =>
        match (Text.cutAt '?' s).2 with
        | some (l :: '?' :: s) =>
          "qQbB".toList.contains l && Text.occursIn "?=" (s.takeWhile (· != '\n'))
        | _ => false)
      || holdsEncodedWord r

/-- the blank before a new encoded word turned into a gap if an encoded word stands before it; the
tokens are in reverse -/
def closeGap : List Token → List Token
  | .leaf .space s :: t :: ts =>
    if t.isForm .encodedWord then .leaf .gap s :: t :: ts else .leaf .space s :: t :: ts
  | ts => ts

/-! ## unstructured values -/

/-- the tokens of an unstructured value, in reverse after those of `done`; `fuel` bounds the tokens -/
def unstructuredFrom : Nat → Text → List Token → List Token
  | 0, _, done => done
  | _, [], done => done
  | n + 1, c :: r, done =>
    let s := c :: r
    if isSpace c then
      unstructuredFrom n (Text.trimStart s) (.leaf .space (s.takeWhile Text.isBlank) :: done)
    else
      match readEncodedWord s with
      | .word t rest => unstructuredFrom n rest (t :: closeGap done)
      | reading =>
        let whole := match reading with
          | .broken => true
          | _ => !holdsEncodedWord (cutBlank s).1
        if whole then unstructuredFrom n (cutBlank s).2 (.leaf .plain (cutBlank s).1 :: done)
        else
          let front := (cutBefore "=?" s).1
          unstructuredFrom n (s.drop front.length) (.leaf .plain front :: done)

/-- an unstructured value -/
def readUnstructured (s : Text) : Token :=
  .form .unstructured (unstructuredFrom s.length s []).reverse

namespace Scan

/-! ## blanks, comments and quoted strings -/

/-- a run of blanks -/
def space : Scan Token := do
  let s ← get
  set (Text.trimStart s)
  return .leaf .space (s.takeWhile Text.isBlank)

/-- the characters up to a blank or to one of `ends`, a backslash taking the meaning from the
character behind it -/
def unescapeUntil (ends : Char → Bool) (escaped : Bool) : Text → Text × Text
  | [] => ([], [])
  | c :: r =>
    if isSpace c then ([], c :: r)
    else if c = '\\' ∧ !escaped then unescapeUntil ends true r
    else if ends c ∧ !escaped then ([], c :: r)
    else
      let q := unescapeUntil ends false r
      (c :: q.1, q.2)

/-- a run inside quotes, a comment or brackets -/
def inside (kind : Leaf) (ends : Char → Bool) : Scan Token := do
  let (w, r) := unescapeUntil ends false (← get)
  set r
  return .leaf kind w

/-- a comment, at most `fuel` levels deep -/
def commentUpTo : Nat → Scan Token
  | 0 => mismatch
  | n + 1 => do
    if ← sees (· != '(') then mismatch
    skip
    let parts ← repeatWhile (fun s => s.head?.any (· != ')'))
      (fun done => do
        if ← sees isSpace then return (← space) :: done
        else if ← sees (· == '(') then return (← commentUpTo n) :: done
        else return (← inside .remark fun c => c == '(' || c == ')') :: done) []
    if ← atEnd then return .node .comment .fault parts.reverse
    skip
    return .form .comment parts.reverse

/-- a comment -/
def comment : Scan Token := do commentUpTo ((← get).length + 1)

/-- blanks and comments -/
def filler : Scan Token := do
  let parts ← repeatWhile (fun s => s.head?.any opensFiller)
    (fun done => do
      if ← sees isSpace then return (← space) :: done else return (← comment) :: done) []
  return .form .filler parts.reverse

/-- blanks and comments as a list of at most one part -/
def filler? : Scan (List Token) := do
  if ← sees opensFiller then return [← filler] else return []

/-- a run inside quotes -/
def quotedRun : Scan Token := inside .quoted (· == '"')

/-- a quoted string by itself -/
def quotedText : Scan Token := do
  if (← next) != '"' then mismatch
  skip
  let first ← if ← sees (· == '"') then pure [← quotedRun] else pure []
  let (parts, flaw) ← repeatWhile (fun s => s.head?.any (· != '"'))
    (fun ((done, flaw) : List Token × Flaw) => do
      if ← sees isSpace then return ((← space) :: done, flaw)
      else
        match readEncodedWord (← get) with
        | .word t r =>
          set r
          return (t :: closeGap done, .fault)
        | _ => return ((← quotedRun) :: done, flaw)) (first, Flaw.none)
  if ← atEnd then return .node .quotedText .fault parts.reverse
  skip
  return .node .quotedText flaw parts.reverse

/-- a quoted string with the fillers around it -/
def quotedString : Scan Token := do
  let front ← filler?
  let q ← quotedText
  let back ← filler?
  return .form .quotedString (front ++ q :: back)

/-! ## atoms -/

/-- a run of atom characters -/
def atomText : Scan Token := do return .leaf .plain (← run fun c => !endsAtom c)

/-- the encoded word at the front, or another form -/
def encodedWordOr (other : Scan Token) : Scan Token := do
  match readEncodedWord (← get) with
  | .word t r =>
    set r
    return t
  | _ => other

/-- an atom with the fillers around it -/
def atom : Scan Token := do
  let front ← filler?
  if ← sees endsAtom then mismatch
  let t ← encodedWordOr atomText
  let back ← filler?
  return .form .atom (front ++ t :: back)

/-- atoms with dots between them -/
def dotAtomText : Scan Token := do
  if (← atEnd) || (← sees endsAtom) then mismatch
  let parts ← repeatWhile (fun s => s.head?.any fun c => !endsAtom c)
    (fun done => do
      let t ← atomText
      if ← sees (· == '.') then
        skip
        return .leaf .dot ['.'] :: t :: done
      else return t :: done) []
  if parts.head?.any (Token.isLeaf .dot) then mismatch
  return .form .dotAtomText parts.reverse

/-- atoms with dots between them and fillers around them -/
def dotAtom : Scan Token := do
  let front ← if opensFiller (← next) then pure [← filler] else pure []
  let t ← encodedWordOr dotAtomText
  let back ← filler?
  return .form .dotAtom (front ++ t :: back)

/-! ## phrases -/

/-- an atom or a quoted string -/
def word : Scan Token := do
  let front ← if opensFiller (← next) then pure [← filler] else pure []
  if ← atEnd then mismatch
  let t ←
    if ← sees (· == '"') then quotedString
    else if ← sees isSpecial then mismatch
    else atom
  return t.prepend front

/-- words and dots; the flaw tells of dots and of fillers without a word -/
def phrase : Scan (List Token × Flaw) := do
  let start ← orElse (do return ([← word], Flaw.none)) (pure ([], .fault))
  let (parts, flaw) ← repeatWhile (fun s => s.head?.any fun c => !endsPhrase c)
    (fun ((done, flaw) : List Token × Flaw) => do
      if ← sees (· == '.') then
        skip
        return (.leaf .dot ['.'] :: done, flaw.max .old)
      else
        orElse (do return ((← word) :: done, flaw))
          (do
            if ← sees opensFiller then return ((← filler) :: done, flaw.max .old)
            else mismatch)) start
  return (parts.reverse, flaw)

/-- a phrase as one token -/
def phraseToken : Scan Token := do
  let (parts, flaw) ← phrase
  return .node .phrase flaw parts

/-- phrases, and marks out of place, up to one of `ends` -/
def junk (ends : Char → Bool) : Scan (List Token) := do
  let parts ← repeatWhile (fun s => s.head?.any fun c => !ends c)
    (fun done => do
      let c ← next
      if endsPhrase c then
        skip
        return Token.markChar c :: done
      else return (← phraseToken) :: done) []
  return parts.reverse

end Scan
end Mailroom.Header
