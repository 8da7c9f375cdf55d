import Mailroom.Address.Basic
import Mailroom.Header.Phrase

/-!
# Address lists

The forms of address headers: local parts, domains, addresses in angle brackets, mailboxes, groups
and lists of them.  A list is read to the end of the value whatever it holds: what is no address
becomes a `nonMailbox`, and text behind an address makes it a `brokenMailbox`.

* `readAddressList`   the tree of a value;
* `Entry`             a mailbox, or a group with its mailboxes, as the tree holds it;
* `entries`           the entries of a tree in order;
* `Entry.text`        an entry as it is shown.
-/

namespace Mailroom.Header

namespace Scan

/-! ## addresses proper -/

/-- words and dots in any order, as old local parts are -/
def looseLocalPart : Scan Token := do
  let (parts, flaw, _) ← repeatWhile (fun s => s.head?.any fun c => c == '\\' || !endsPhrase c)
    (fun ((done, flaw, dotted) : List Token × Flaw × Bool) => do
      let c ← next
      if c = '.' then
        skip
        return (.leaf .dot ['.'] :: done, if dotted then .fault else flaw, true)
      else if c = '\\' then
        skip
        return (.markChar c :: done, .fault, false)
      else
        let flaw := if done.head?.any fun t => !t.isLeaf .dot then Flaw.fault else flaw
        orElse (do return ((← word) :: done, flaw, false))
          (do
            if ← sees opensFiller then return ((← filler) :: done, flaw, dotted)
            else mismatch)) ([], Flaw.none, false)
  let stray (ps : List Token) : Except Stop Bool :=
    match ps with
    | [] => .error .noPart
    | t :: r =>
      if t.isLeaf .dot then .ok true
      else if t.isForm .filler then
        match r with
        | [] => .error .noPart
        | u :: _ => .ok (u.isLeaf .dot)
      else .ok false
  let front ← stray parts.reverse
  let back ← stray parts
  return .node .looseLocalPart (if front || back then .fault else flaw) parts.reverse

/-- the part of an address before the `@` -/
def localPart : Scan Token := do
  let front ← if opensFiller (← next) then pure [← filler] else pure []
  if ← atEnd then mismatch
  let t ← orElse dotAtom (orElse word (do
    let c ← next
    if c != '\\' && endsPhrase c then mismatch else return .form .sequence []))
  let t := t.prepend front
  if ← sees fun c => c == '\\' || !endsPhrase c then
    modify (t.text ++ ·)
    let loose ← looseLocalPart
    return .node .localPart (if loose.hasFault then .fault else .old) [loose]
  else return .form .localPart [t]

/-- a bracketed domain -/
def domainLiteral : Scan Token := do
  let front ← if opensFiller (← next) then pure [← filler] else pure []
  if !(← sees (· == '[')) then mismatch
  skip
  let opening := front ++ [Token.markChar '[']
  let close (parts : List Token) : Token := .node .domainLiteral .fault (parts ++ [.markChar ']'])
  if ← atEnd then return close front
  let blank ← if ← sees isSpace then pure [← space] else pure []
  if ← atEnd then mismatch
  let inner ← inside .quoted fun c => c == '[' || c == ']'
  let parts := opening ++ blank ++ [inner]
  if ← atEnd then return close parts
  let parts ← if ← sees isSpace then pure (parts ++ [← space]) else pure parts
  if ← atEnd then return close parts
  if !(← sees (· == ']')) then mismatch
  skip
  let back ← filler?
  return .form .domainLiteral (parts ++ .markChar ']' :: back)

/-- dots and atoms behind an atom -/
def moreLabels : Scan (List Token) := do
  let parts ← repeatWhile (fun s => s.head?.any (· == '.'))
    (fun done => do
      skip
      let t ← atom
      return t :: .leaf .dot ['.'] :: done) []
  return parts.reverse

/-- the part of an address behind the `@` -/
def domain : Scan Token := do
  let front ← if opensFiller (← next) then pure [← filler] else pure []
  if ← atEnd then mismatch
  if ← sees (· == '[') then return .form .domain [(← domainLiteral).prepend front]
  let t ← orElse dotAtom atom
  if ← sees (· == '@') then mismatch
  let t := t.prepend front
  if ← sees (· == '.') then
    let more ← moreLabels
    return .node .domain .old ((if t.isForm .dotAtom then t.parts else [t]) ++ more)
  else return .form .domain [t]

/-- an address proper -/
def addrSpec : Scan Token := do
  let l ← localPart
  if !(← sees (· == '@')) then return .node .addrSpec .fault [l]
  skip
  let d ← domain
  return .form .addrSpec [l, .markChar '@', d]

/-- domains in front of an address in angle brackets, as in old mail -/
def route : Scan Token := do
  let front ← repeatWhile (fun s => s.head?.any fun c => c == ',' || opensFiller c)
    (fun done => do
      if ← sees opensFiller then return (← filler) :: done
      else
        skip
        return .leaf .comma [','] :: done) []
  if !(← sees (· == '@')) then mismatch
  skip
  let d ← domain
  let parts ← repeatWhile (fun s => s.head?.any (· == ','))
    (fun done => do
      skip
      let done := .leaf .comma [','] :: done
      if ← atEnd then return done
      let done := (← filler?) ++ done
      if (← next) == '@' then
        skip
        return (← domain) :: .markChar '@' :: done
      else return done) (d :: .markChar '@' :: front)
  if !(← sees (· == ':')) then mismatch
  skip
  return .form .route (.markChar ':' :: parts).reverse

/-- an address in angle brackets -/
def angleAddr : Scan Token := do
  let front ← if opensFiller (← next) then pure [← filler] else pure []
  if !(← sees (· == '<')) then mismatch
  skip
  let front := front ++ [Token.markChar '<']
  if (← next) == '>' then
    skip
    return .node .angleAddr .fault (front ++ [.markChar '>'])
  let (inner, flaw) ← orElse (do return ([← addrSpec], Flaw.none))
    (do
      let r ← route
      return ([r, ← addrSpec], .old))
  let flaw ← if ← sees (· == '>') then do
      skip
      pure flaw
    else pure .fault
  let back ← filler?
  return .node .angleAddr flaw (front ++ inner ++ .markChar '>' :: back)

/-! ## mailboxes and groups -/

/-- the name in front of an address or a group -/
def displayName : Scan Token := do
  let (parts, flaw) ← phrase
  return .node .displayName flaw parts

/-- an address in angle brackets with a name in front of it -/
def nameAddr : Scan Token := do
  let front ← if opensFiller (← next) then pure [← filler] else pure []
  let c ← match (← next?) with
    | some c => pure c
    | none => mismatch
  if c = '<' then return .form .nameAddr [(← angleAddr).prepend front]
  if endsPhrase c then mismatch
  let name ← displayName
  if ← atEnd then mismatch
  let name ← match front, name with
    | [], n => pure n
    | f, .node k flaw (p :: ps) => pure (.node k flaw (p.prepend f :: ps))
    | _, _ => throw .noPart
  return .form .nameAddr [name, ← angleAddr]

/-- a mailbox -/
def mailbox : Scan Token := do
  let t ← orElse nameAddr addrSpec
  return .form (if t.hasFault then .brokenMailbox else .mailbox) [t]

/-- a mailbox with text behind it -/
def breakLast (back : List Token) : List Token → List Token
  | .node _ f ps :: ts => .node .brokenMailbox f (ps ++ back) :: ts
  | ts => ts

/-- what stands in the place of a mailbox, up to one of `ends` -/
def nonMailbox (front : List Token) (ends : Char → Bool) : Scan Token := do
  return .form .nonMailbox (front ++ (← junk ends))

/-- the mailboxes of a group; the tokens and their flaw -/
def mailboxes : Scan (List Token × Flaw) := do
  let ends (c : Char) : Bool := c == ',' || c == ';'
  let (parts, flaw) ← repeatWhile (fun s => s.head?.any (· != ';'))
    (fun ((done, flaw) : List Token × Flaw) => do
      let (done, flaw) ← orElse (do return ((← mailbox) :: done, flaw)) (do
        if ← sees opensFiller then
          let f ← filler
          if (← atEnd) || (← sees ends) then return (f :: done, flaw.max .old)
          else return ((← nonMailbox [f] ends) :: done, .fault)
        else if ← sees (· == ',') then return (done, flaw.max .old)
        else return ((← nonMailbox [] ends) :: done, .fault))
      let (done, flaw) ← if ← sees fun c => !ends c then do
          let back ← junk ends
          pure (breakLast back done, Flaw.fault)
        else pure (done, flaw)
      if ← sees (· == ',') then
        skip
        return (.leaf .comma [','] :: done, flaw)
      else return (done, flaw)) ([], Flaw.none)
  return (parts.reverse, flaw)

/-- whether the token stands for a mailbox of a group -/
def isMember (t : Token) : Bool :=
  t.isForm .mailbox || t.isForm .brokenMailbox || t.isForm .nonMailbox

/-- the inside of a group -/
def groupList : Scan Token := do
  if ← atEnd then return .node .groupList .fault []
  let front ← filler?
  if !front.isEmpty then
    if ← atEnd then return .node .groupList .fault front
    if ← sees (· == ';') then return .form .groupList front
  let (parts, flaw) ← mailboxes
  if parts.any isMember then
    return .form .groupList [.node .mailboxList flaw (front ++ parts)]
  else return .node .groupList .old (front ++ parts)

/-- a named group of mailboxes -/
def group : Scan Token := do
  let name ← displayName
  if !(← sees (· == ':')) then mismatch
  skip
  let front := [name, Token.markChar ':']
  if ← sees (· == ';') then
    skip
    return .form .group (front ++ [.markChar ';'])
  let inner ← groupList
  if ← atEnd then return .node .group .fault (front ++ [inner, .markChar ';'])
  if !(← sees (· == ';')) then mismatch
  skip
  let back ← filler?
  return .form .group (front ++ inner :: .markChar ';' :: back)

/-- a mailbox or a group -/
def address : Scan Token := do return .form .address [← orElse group mailbox]

/-- a list of addresses, to the end of the value -/
def addressList : Scan Token := do
  let ends (c : Char) : Bool := c == ','
  let (parts, flaw) ← repeatWhile (fun s => !s.isEmpty)
    (fun ((done, flaw) : List Token × Flaw) => do
      let (done, flaw) ← orElse (do return ((← address) :: done, flaw)) (do
        if ← sees opensFiller then
          let f ← filler
          if (← atEnd) || (← sees ends) then return (f :: done, flaw.max .old)
          else return (.form .address [← nonMailbox [f] ends] :: done, .fault)
        else if ← sees ends then return (done, flaw.max .old)
        else return (.form .address [← nonMailbox [] ends] :: done, .fault))
      let (done, flaw) ← if ← sees fun c => !ends c then do
          let back ← junk ends
          pure (match done with
            | .node k f ps :: ts => .node k f (breakLast back ps) :: ts
            | ts => ts, Flaw.fault)
        else pure (done, flaw)
      if ← sees ends then
        skip
        return (.leaf .comma [','] :: done, flaw)
      else return (done, flaw)) ([], Flaw.none)
  return .node .addressList flaw parts.reverse

end Scan

/-- the tree of an address header -/
def readAddressList (s : Text) : Except Stop Token := do
  return (← StateT.run Scan.addressList s).1

/-! ## what the tree says -/

/-- a mailbox of a header: a name, a local part and a domain, any of them possibly empty -/
structure Member where
  name : Text
  localPart : Text
  domain : Text
deriving DecidableEq, Repr

/-- a mailbox, or a named group of mailboxes -/
structure Entry where
  /-- the name of a group -/
  group : Option Text
  members : List Member
deriving DecidableEq, Repr

namespace Token

/-- the token without a filler at its front -/
def withoutFront : Token → Except Stop Token
  | node _ _ [] => .error .noPart
  | node _ _ (p :: ps) => .ok (if p.isForm .filler then form .sequence ps else form .sequence (p :: ps))
  | t => .ok t

/-- the token without a filler at its end -/
def withoutBack (t : Token) : Except Stop Token :=
  match t with
  | node _ _ ps =>
    match ps.getLast? with
    | none => .error .noPart
    | some p => .ok (form .sequence (if p.isForm .filler then ps.dropLast else ps))
  | t => .ok t

/-- a display name without the fillers at its ends -/
def shownName (t : Token) : Except Stop Text := do
  match t.parts with
  | [] => return []
  | p :: ps =>
    let ps ← if p.isForm .filler then pure ps else do pure ((← p.withoutFront) :: ps)
    match ps.getLast? with
    | none => throw .noPart
    | some q =>
      let ps ← if q.isForm .filler then pure ps.dropLast
        else do pure (ps.dropLast ++ [← q.withoutBack])
      return valueAll ps

/-- the parts of a local part without the fillers around its dots, in reverse after those of
`done` -/
def unfilled : List Token → List Token → Except Stop (List Token)
  | done, [] => .ok done
  | done, t :: ts => do
    if t.isForm .filler then unfilled done ts
    else
      let done ←
        match done with
        | node k f ps :: rest =>
          if t.isLeaf .dot then
            match ps.getLast? with
            | none => throw .noPart
            | some p =>
              if p.isForm .filler then pure (form .sequence ps.dropLast :: rest)
              else pure (node k f ps :: rest)
          else pure done
        | done => pure done
      let t ←
        match t with
        | node k f ps =>
          if done.head?.all (isLeaf .dot) then
            match ps with
            | [] => throw .noPart
            | p :: ps' => pure (if p.isForm .filler then form .sequence ps' else node k f ps)
          else pure t
        | t => pure t
      unfilled (t :: done) ts

/-- a local part without the fillers around its dots -/
def localText (t : Token) : Except Stop Text := do
  let ts ← unfilled [] ((t.parts.head?.elim [] parts) ++ [leaf .dot ['.']])
  return valueAll ts.tail.reverse

/-- a domain without its blanks -/
def domainText (t : Token) : Text := (t.value).filter fun c => !Text.isBlank c

/-- the address proper in a mailbox -/
def addrSpecOf? (t : Token) : Option Token :=
  match t.parts.head? with
  | none => none
  | some p =>
    if p.isForm .addrSpec then some p
    else
      match p.parts.getLast? with
      | none => none
      | some angle => angle.parts.find? (isForm .addrSpec)

/-- the display name in front of a mailbox -/
def nameOf? (t : Token) : Option Token :=
  match t.parts.head? with
  | some (node .nameAddr _ (n :: _ :: _)) => some n
  | _ => none

/-- what a mailbox says -/
def member (t : Token) : Except Stop Member := do
  if t.isForm .nonMailbox then return ⟨[], [], []⟩
  let name ← match t.nameOf? with
    | some n => n.shownName
    | none => pure []
  match t.addrSpecOf? with
  | none => return ⟨name, [], []⟩
  | some a =>
    match a.parts with
    | [l] => return ⟨name, ← l.localText, []⟩
    | l :: _ => return ⟨name, ← l.localText, (a.parts.getLast?.elim [] domainText)⟩
    | [] => return ⟨name, [], []⟩

/-- what an address says -/
def entry (t : Token) : Except Stop Entry := do
  match t.parts with
  | node .group _ (name :: _ :: inner) :: _ =>
    let boxes :=
      match inner with
      | node .groupList _ (node .mailboxList _ ps :: _) :: _ => ps.filter Scan.isMember
      | _ => []
    return ⟨some (← name.shownName), ← boxes.mapM member⟩
  | m :: _ => return ⟨none, [← m.member]⟩
  | [] => return ⟨none, []⟩

/-- what the addresses of a list say, in order -/
def entries (t : Token) : Except Stop (List Entry) :=
  (t.parts.filter (isForm .address)).mapM entry

end Token

/-! ## how it is shown -/

/-- a name as it is shown: in quotes if it holds a special character -/
def shownQuoted (s : Text) : Text := if s.any isSpecial then quote s else s

namespace Member

/-- the address proper as it is shown -/
def addrSpec (m : Member) : Text :=
  let l := if m.localPart.any endsDotAtom then quote m.localPart else m.localPart
  if !m.domain.isEmpty then l ++ '@' :: m.domain
  else if l.isEmpty then "<>"
  else l

/-- a mailbox as it is shown -/
def text (m : Member) : Text :=
  if m.name.isEmpty then m.addrSpec
  else
    shownQuoted m.name ++ " <" ++ (if m.addrSpec == "<>".toList then [] else m.addrSpec) ++ ">"

/-- whether a line break stands in the mailbox -/
def hasLineBreak (m : Member) : Bool :=
  (m.name ++ m.localPart ++ m.domain).any fun c => c == '\r' || c == '\n'

end Member

/-- mailboxes with commas between them -/
def membersText (ms : List Member) : Text := [',', ' '].intercalate (ms.map Member.text)

namespace Entry

/-- an entry as it is shown -/
def text (e : Entry) : Text :=
  match e.group with
  | none => membersText e.members
  | some g =>
    shownQuoted g ++ ":" ++ (if (membersText e.members).isEmpty then [] else ' ' :: membersText e.members)
      ++ ";"

end Entry

end Mailroom.Header
