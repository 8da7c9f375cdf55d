import Mailroom.Address.Basic

/-!
# Reading address lists

The address lists of headers and command lines hold mailboxes (`Ann <a@x.org>`, `a@x.org (Ann)`),
groups (`Team: a@x.org, b@y.org;`), comments in parentheses and quoted strings.  The reader takes
whatever it is given and returns a mailbox with empty parts where there is none to be found.

A `Cursor` holds the text still to be read and the comments met in the current mailbox.

* `gap`          blanks and comments in front of a text;
* `addrSpec`     an address proper, with blanks removed around its dots;
* `mailboxes`    all mailboxes of a text;
* `ofValues`     the mailboxes of several header values, read strictly: a value with unbalanced
                 parentheses counts as no mailbox, and when the number of mailboxes differs from the
                 number that the commas announce, the whole is one empty mailbox.
-/

namespace Mailroom.Address

/-! ## characters -/

/-- a space or a tab -/
def isSpace (c : Char) : Bool := c == ' ' || c == '\t'

/-- a line break character -/
def isBreak (c : Char) : Bool := c == '\r' || c == '\n'

/-- characters with a meaning of their own in addresses -/
def specials : Text := "()<>@,:;.\"[]"

/-- a character that ends an atom -/
def endsAtom (c : Char) : Bool := specials.contains c || isSpace c || isBreak c

/-- a character that ends a word of a phrase; a dot does not -/
def endsWord (c : Char) : Bool := endsAtom c && c != '.'

/-! ## delimited pieces -/

/-- the text up to `close` or a carriage return, with backslashes taken off, and what follows -/
def delimited (close : Char) : Text → Text × Text
  | [] => ([], [])
  | ['\\'] => ([], [])
  | '\\' :: c :: r => (c :: (delimited close r).1, (delimited close r).2)
  | c :: r =>
    if c = close ∨ c = '\r' then ([], r)
    else (c :: (delimited close r).1, (delimited close r).2)

theorem delimited_length (close : Char) (s : Text) : (delimited close s).2.length ≤ s.length := by
  fun_induction delimited close s <;> grind

/-- the comment whose opening parenthesis was read, without the parentheses inside it, and what
follows; `depth` further parentheses are open -/
def comment : Nat → Text → Text × Text
  | _, [] => ([], [])
  | _, ['\\'] => ([], [])
  | depth, '\\' :: c :: r => (c :: (comment depth r).1, (comment depth r).2)
  | depth, c :: r =>
    if c = ')' ∨ c = '\r' then
      match depth with
      | 0 => ([], r)
      | d + 1 => comment d r
    else if c = '(' then comment (depth + 1) r
    else (c :: (comment depth r).1, (comment depth r).2)

theorem comment_length (depth : Nat) (s : Text) : (comment depth s).2.length ≤ s.length := by
  fun_induction comment depth s <;> grind

/-- the blanks in front of a text other than line breaks, the comments among them, and what
follows -/
def gap : Text → Text × List Text × Text
  | [] => ([], [], [])
  | c :: r =>
    if isBreak c then gap r
    else if isSpace c then
      let g := gap r
      (c :: g.1, g.2.1, g.2.2)
    else if c = '(' then
      have := comment_length 0 r
      let g := gap (comment 0 r).2
      (g.1, (comment 0 r).1 :: g.2.1, g.2.2)
    else ([], [], c :: r)
termination_by s => s.length
decreasing_by all_goals simp_all <;> omega

theorem gap_length (s : Text) : (gap s).2.2.length ≤ s.length := by
  fun_induction gap s with
  | case1 => simp
  | case2 c r _ ih => simp; omega
  | case3 c r _ _ g ih => show (gap r).2.2.length ≤ r.length + 1; omega
  | case4 r _ _ hc g ih => show (gap (comment 0 r).2).2.2.length ≤ r.length + 1; omega
  | case5 c r => simp

/-! ## the cursor -/

/-- the text still to be read and the comments of the current mailbox -/
structure Cursor where
  rest : Text
  comments : List Text
deriving DecidableEq, Repr

namespace Cursor

/-- the cursor behind blanks and comments, and the blanks -/
def skip (c : Cursor) : Text × Cursor :=
  let g := gap c.rest
  (g.1, ⟨g.2.2, c.comments ++ g.2.1⟩)

theorem skip_length (c : Cursor) : c.skip.2.rest.length ≤ c.rest.length := gap_length c.rest

end Cursor

/-- the rest of a text behind a non-empty word is shorter -/
theorem dropWhile_length_lt {p : Char → Bool} {c : Char} {r : Text} (h : p c = true) :
    ((c :: r).dropWhile p).length < (c :: r).length := by
  rw [List.dropWhile_cons, if_pos h]
  have := (List.dropWhile_sublist (l := r) p).length_le
  simp only [List.length_cons]
  omega

/-! ## phrases -/

/-- the words of a phrase: atoms, dots included, and quoted strings -/
def phrase (c : Cursor) : List Text × Cursor :=
  match h : c.rest with
  | [] => ([], c)
  | d :: r =>
    if isSpace d || isBreak d then phrase ⟨r, c.comments⟩
    else if d = '"' then
      have := delimited_length '"' r
      let q := phrase ⟨(delimited '"' r).2, c.comments⟩
      ((delimited '"' r).1 :: q.1, q.2)
    else if d = '(' then
      have := comment_length 0 r
      phrase ⟨(comment 0 r).2, c.comments ++ [(comment 0 r).1]⟩
    else if hw : endsWord d then ([], c)
    else
      have := dropWhile_length_lt (p := fun e => !endsWord e) (c := d) (r := r) (by simp [hw])
      let q := phrase ⟨(d :: r).dropWhile fun e => !endsWord e, c.comments⟩
      ((d :: r).takeWhile (fun e => !endsWord e) :: q.1, q.2)
termination_by c.rest.length
decreasing_by all_goals simp_all <;> omega

/-! ## address proper -/

/-- the domain in front of a text; empty if a second `@` follows -/
def domain (c : Cursor) (done : Text) : Text × Cursor :=
  match h : c.rest with
  | [] => (done, c)
  | d :: r =>
    if isSpace d then domain ⟨r, c.comments⟩ done
    else if d = '(' then
      have := comment_length 0 r
      domain ⟨(comment 0 r).2, c.comments ++ [(comment 0 r).1]⟩ done
    else if d = '[' then
      have := delimited_length ']' r
      domain ⟨(delimited ']' r).2, c.comments⟩ (done ++ '[' :: (delimited ']' r).1 ++ [']'])
    else if d = '.' then domain ⟨r, c.comments⟩ (done ++ ['.'])
    else if d = '@' then ([], c)
    else if hw : endsAtom d then (done, c)
    else
      have := dropWhile_length_lt (p := fun e => !endsAtom e) (c := d) (r := r) (by simp [hw])
      domain ⟨(d :: r).dropWhile fun e => !endsAtom e, c.comments⟩
        (done ++ (d :: r).takeWhile fun e => !endsAtom e)
termination_by c.rest.length
decreasing_by all_goals simp_all <;> omega

/-- the pieces without a blank one at the front -/
def dropBlank : List Text → List Text
  | p :: ps => if (Text.trim p).isEmpty then ps else p :: ps
  | [] => []

/-- the pieces in front of an `@`, last first: atoms, quoted strings, dots, and the blanks between
them, which are dropped beside a dot and at the end -/
def localPart (c : Cursor) (done : List Text) : List Text × Cursor :=
  match h : c.rest with
  | [] => (done, c)
  | d :: r =>
    if d = '.' then
      have := Cursor.skip_length ⟨r, c.comments⟩
      localPart (Cursor.skip ⟨r, c.comments⟩).2 (['.'] :: dropBlank done)
    else if d = '"' then
      have := delimited_length '"' r
      have := Cursor.skip_length ⟨(delimited '"' r).2, c.comments⟩
      let g := Cursor.skip ⟨(delimited '"' r).2, c.comments⟩
      let word := '"' :: (delimited '"' r).1.flatMap escapeQuoted ++ ['"']
      localPart g.2 (if g.1.isEmpty then word :: done else g.1 :: word :: done)
    else if hw : endsAtom d then (dropBlank done, c)
    else
      have := dropWhile_length_lt (p := fun e => !endsAtom e) (c := d) (r := r) (by simp [hw])
      have := Cursor.skip_length ⟨(d :: r).dropWhile fun e => !endsAtom e, c.comments⟩
      let g := Cursor.skip ⟨(d :: r).dropWhile fun e => !endsAtom e, c.comments⟩
      let word := (d :: r).takeWhile fun e => !endsAtom e
      localPart g.2 (if g.1.isEmpty then word :: done else g.1 :: word :: done)
termination_by c.rest.length
decreasing_by all_goals simp_all <;> omega
where
  /-- a backslash in front of a quote or a backslash -/
  escapeQuoted (c : Char) : Text := if c = '"' ∨ c = '\\' then ['\\', c] else [c]

/-- an address proper; what stands in front of a missing `@` is returned as it is, and a missing
domain makes the whole empty -/
def addrSpec (c : Cursor) : Text × Cursor :=
  let p := localPart c.skip.2 []
  let front := p.1.reverse.flatten
  match p.2.rest with
  | '@' :: r =>
    let d := domain (Cursor.skip ⟨r, p.2.comments⟩).2 []
    (if d.1.isEmpty then [] else front ++ '@' :: d.1, d.2)
  | _ => (front, p.2)

/-- the address inside `<` and `>`, behind the domains of a route -/
def routed : Nat → Cursor → Text × Cursor
  | 0, c => ([], c)
  | n + 1, c =>
    match c.rest with
    | [] => ([], c)
    | '>' :: r => ([], ⟨r, c.comments⟩)
    | '@' :: r => routed n (domain (Cursor.skip ⟨r, c.comments⟩).2 []).2.skip.2
    | ':' :: r => routed n (Cursor.skip ⟨r, c.comments⟩).2
    | _ =>
      let a := addrSpec c
      (a.1, ⟨a.2.rest.drop 1, a.2.comments⟩)

/-! ## mailboxes -/

/-- comments as a name -/
def commentName (comments : List Text) : Text := [' '].intercalate comments

mutual

/-- the mailboxes of one address or group at the front of a text, and what follows its comma -/
def address : Nat → Text → List Mailbox × Text
  | 0, s => ([], s)
  | n + 1, s =>
    let start := (Cursor.skip ⟨s, []⟩).2
    let words := (phrase start).1
    let c := (phrase start).2.skip.2
    let found : List Mailbox × Text :=
      match c.rest with
      | [] => (words.head?.toList.map (⟨commentName c.comments, ·⟩), [])
      | ':' :: r => members n r
      | '<' :: r =>
        let a := routed (r.length + 1) (Cursor.skip ⟨r, c.comments⟩).2
        let name := [' '].intercalate words
        ([⟨if a.2.comments.isEmpty then name
            else name ++ " (" ++ commentName a.2.comments ++ ")", a.1⟩], a.2.rest)
      | d :: r =>
        if d = '.' ∨ d = '@' then
          let a := addrSpec ⟨start.rest, c.comments⟩
          ([⟨commentName a.2.comments, a.1⟩], a.2.rest)
        else
          match words with
          | w :: _ => ([⟨commentName c.comments, w⟩], d :: r)
          | [] => ([], r)
    match (gap found.2).2.2 with
    | ',' :: r => (found.1, r)
    | r => (found.1, r)

/-- the mailboxes of a group behind its colon, and what follows its semicolon -/
def members : Nat → Text → List Mailbox × Text
  | 0, s => ([], s)
  | n + 1, s =>
    match (gap s).2.2 with
    | [] => ([], [])
    | ';' :: r => ([], r)
    | r =>
      let a := address n r
      let more := members n a.2
      (a.1 ++ more.1, more.2)

end

/-- the mailboxes of a text, an empty one where an address has none -/
def mailboxesFrom : Nat → Text → List Mailbox
  | 0, _ => []
  | _, [] => []
  | n + 1, s =>
    let a := address (2 * s.length + 2) s
    (if a.1.isEmpty then [⟨[], []⟩] else a.1) ++ mailboxesFrom n a.2

/-- the mailboxes of a text -/
def mailboxes (s : Text) : List Mailbox := mailboxesFrom s.length s

/-! ## strict reading of header values -/

/-- what follows the next quote that is not behind a backslash -/
def afterQuote? : Text → Option Text
  | [] => none
  | ['\\'] => none
  | '\\' :: _ :: r => afterQuote? r
  | c :: r => if c = '"' then some r else afterQuote? r

theorem afterQuote?_length {s r : Text} (h : afterQuote? s = some r) : r.length < s.length := by
  fun_induction afterQuote? s <;> grind

/-- a text without its quoted strings; an open one is kept -/
def withoutQuoted : Text → Text
  | [] => []
  | ['\\'] => ['\\']
  | '\\' :: c :: r => '\\' :: c :: withoutQuoted r
  | c :: r =>
    if c = '"' then
      match h : afterQuote? r with
      | some rest =>
        have := afterQuote?_length h
        withoutQuoted rest
      | none => c :: r
    else c :: withoutQuoted r
termination_by s => s.length
decreasing_by all_goals simp_all <;> omega

/-- whether parentheses outside of escapes close what they open; `depth` are open -/
def balanced : Nat → Text → Bool
  | depth, [] => depth == 0
  | depth, ['\\'] => depth == 0
  | depth, '\\' :: _ :: r => balanced depth r
  | depth, c :: r =>
    if c = '(' then balanced (depth + 1) r
    else if c = ')' then
      match depth with
      | 0 => false
      | d + 1 => balanced d r
    else balanced depth r

/-- what stands for a value that is no address list -/
def emptyValue : Text := "('', '')"

/-- the mailboxes of header values -/
def ofValues (values : List Text) : List Mailbox :=
  let vs := values.map fun v => if balanced 0 (withoutQuoted v) then v else emptyValue
  let found := (mailboxes ([',', ' '].intercalate vs)).map fun m =>
    if m.address.contains '[' then ⟨[], []⟩ else m
  let announced := vs.foldl (fun n v => n + 1 + (withoutQuoted v).count ',') 0
  if found.length = announced then found else [⟨[], []⟩]

end Mailroom.Address
