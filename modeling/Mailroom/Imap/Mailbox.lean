import Mailroom.Text.Blank

/-!
# Folder names on the wire

A folder name that holds a blank, a quote or a backslash goes to the server in quotes; a name that is
in quotes already is left alone.
-/

namespace Mailroom.Imap

/-- a character that puts a folder name into quotes -/
def needsQuotes (c : Char) : Bool := Text.isBlank c || c == '"' || c == '\\'

/-- a folder name as an argument of a command -/
def folderArgument (name : Text) : Text :=
  if name.head? = some '"' ∨ ¬ name.any needsQuotes then name
  else '"' :: name.flatMap (fun c => if c = '"' ∨ c = '\\' then ['\\', c] else [c]) ++ ['"']

end Mailroom.Imap
