import Mailroom.Text.Digit
import Mailroom.Text.Quoted

/-!
# Options of the command line

An option is written as a letter behind a dash or as a word behind two dashes.  A word may be cut short
as long as no other option begins like it; a letter may stand in a row of letters; a value stands behind
an equals sign, behind the letter, or in the next argument.

* `Switch`         the options;
* `Piece.ofText`   what one argument is by itself.
-/

namespace Mailroom.Cli

/-- an option -/
inductive Switch where
  | help
  | recipient
  | cc
  | bcc
  | subject
  | message
  | attachment
  | download
  | filter
  | folder
  | fromOldest
  | reverse
  | limit
  | password
deriving DecidableEq, Repr

namespace Switch

/-- all options in the order of the help -/
def all : List Switch :=
  [help, recipient, cc, bcc, subject, message, attachment, download, filter, folder, fromOldest,
    reverse, limit, password]

/-- the letter of an option -/
def letter? : Switch → Option Char
  | help => some 'h'
  | recipient => some 'r'
  | cc => some 'c'
  | bcc => some 'b'
  | subject => some 's'
  | message => some 'm'
  | attachment => some 'a'
  | download => some 'd'
  | filter => some 'f'
  | folder => some 'e'
  | fromOldest => some 'o'
  | reverse => some 'i'
  | limit => some 'l'
  | password => none

/-- the word of an option, with its dashes -/
def word : Switch → Text
  | help => "--help"
  | recipient => "--recipient"
  | cc => "--cc"
  | bcc => "--bcc"
  | subject => "--subject"
  | message => "--message"
  | attachment => "--attachment"
  | download => "--download"
  | filter => "--filter"
  | folder => "--folder"
  | fromOldest => "--from-oldest"
  | reverse => "--reverse"
  | limit => "--limit"
  | password => "--password"

/-- whether a value belongs to an option -/
def takesValue : Switch → Bool
  | help | download | fromOldest | reverse => false
  | _ => true

/-- an option in messages -/
def title (s : Switch) : Text :=
  match s.letter? with
  | some c => ['-', c, '/'] ++ s.word
  | none => s.word

/-- the option of a letter -/
def ofLetter? (c : Char) : Option Switch := all.find? fun s => s.letter? == some c

/-- the option that is written so, as a letter or in full -/
def ofSpelling? (t : Text) : Option Switch :=
  match t with
  | ['-', c] => ofLetter? c
  | t => all.find? fun s => s.word == t

/-- the options whose words begin so -/
def startingWith (t : Text) : List Switch := all.filter fun s => t.isPrefixOf s.word

end Switch

/-- why a command line is refused -/
inductive UsageError where
  | ambiguous (given : Text) (candidates : List Switch)
  | missingValue (s : Switch)
  | needlessValue (s : Switch) (value : Text)
  | badValue (s : Switch) (why : Text)
  | unknown (arguments : List Text)
deriving DecidableEq, Repr

/-- the wording -/
def UsageError.message : UsageError → Text
  | ambiguous given candidates =>
    "ambiguous option: " ++ given ++ " could match "
      ++ [',', ' '].intercalate (candidates.map Switch.word)
  | missingValue s => "argument " ++ s.title ++ ": expected one argument"
  | needlessValue s v => "argument " ++ s.title ++ ": ignored explicit argument " ++ Text.quoted v
  | badValue s why => "argument " ++ s.title ++ ": " ++ why
  | unknown as => "unrecognized arguments: " ++ [' '].intercalate as

/-- what one argument is by itself -/
inductive Piece where
  /-- a value, or an argument that belongs to no option -/
  | plain (text : Text)
  /-- two dashes: nothing behind them is an option -/
  | dashes
  /-- an option, written as a letter or as a word, with the value that stands in the same argument -/
  | switch (s : Switch) (asLetter : Bool) (value : Option Text)
  /-- something that looks like an option and is none -/
  | unknown (text : Text)
deriving DecidableEq, Repr

namespace Piece

/-- a text of digits with at most one point, which has digits behind it; a line break may end it -/
def isNumber (t : Text) : Bool :=
  let t := if t.getLast? = some '\n' then t.dropLast else t
  match Text.cutAt '.' t with
  | (whole, none) => !whole.isEmpty && whole.all Text.isDigit
  | (whole, some part) => whole.all Text.isDigit && !part.isEmpty && part.all Text.isDigit

/-- an argument in which no option is recognised -/
def other (t : Text) : Piece :=
  if isNumber (t.drop 1) ∨ ' ' ∈ t then plain t else unknown t

/-- a word that may be cut short, with its value -/
def ofWord (t : Text) : Except UsageError Piece :=
  let (word, value) := Text.cutAt '=' t
  match Switch.startingWith word with
  | [] => .ok (other t)
  | [s] => .ok (switch s false value)
  | ss => .error (.ambiguous t ss)

/-- a letter with what stands behind it -/
def ofLetters (t : Text) (c : Char) (rest : Text) : Piece :=
  match Switch.ofLetter? c with
  | some s => switch s true (some rest)
  | none => other t

/-- an option that stands in front of an equals sign, with its value -/
def beforeEquals? (t : Text) : Option Piece :=
  match Text.cutAt '=' t with
  | (spelling, some value) =>
    (Switch.ofSpelling? spelling).map fun s => switch s (spelling.length == 2) (some value)
  | _ => none

/-- what an argument is by itself -/
def ofText (t : Text) : Except UsageError Piece :=
  match t with
  | '-' :: c :: rest =>
    if t = ['-', '-'] then .ok dashes
    else
      match Switch.ofSpelling? t with
      | some s => .ok (switch s (rest == []) none)
      | none =>
        match beforeEquals? t with
        | some p => .ok p
        | none => if c = '-' then ofWord t else .ok (ofLetters t c rest)
  | t => .ok (plain t)

/-- what the arguments of a command line are -/
def ofTexts : List Text → Except UsageError (List (Text × Piece))
  | [] => .ok []
  | t :: ts => do
    match ← ofText t with
    | dashes => return (t, dashes) :: ts.map fun u => (u, plain u)
    | p => return (t, p) :: (← ofTexts ts)

end Piece
end Mailroom.Cli
