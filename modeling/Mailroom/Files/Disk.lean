import Mailroom.Codec.Utf8
import Mailroom.Fault
import Mailroom.Files.Path

/-!
# Files

A `Disk` holds files and directories.  The program works in the home directory; paths lead on from
there, or from the root if they begin with a slash or with the path of the home directory.  There are
no links and no permissions.

* `Disk.place?`       where a path leads, if it leads anywhere;
* `Disk.read`, `Disk.write`, `Disk.makeDirectory`   with the faults of the system;
* `Disk.textOrSelf?`  the text of a file, or the path itself if it names no file;
* `Attachment.check`  why a file cannot be attached.
-/

namespace Mailroom

/-- the names that lead from the root to a file or directory -/
abbrev Place := List Text

/-- files and directories -/
structure Disk where
  /-- the path of the home directory -/
  home : Text
  /-- the place of the home directory -/
  homeAt : Place
  /-- the content of each file and none for each directory; the directories on the way to the home
  directory, and itself, exist without being listed -/
  entries : List (Place × Option Octets)
deriving Repr

namespace Disk

/-- the longest name of a file in octets -/
def maxName : Nat := 255

/-- the directories above a path, without the one it starts from -/
def parents : List Text → List (List Text)
  | [] | [_] => []
  | p :: q :: r => [p] :: (parents (q :: r)).map (p :: ·)

/-- the disk with some files and directories below the home directory; the directories above them exist
as well.  The home directory stands in a directory whose name nobody knows -/
def ofFiles (home name : Text) (files : List (Text × Option Octets)) : Disk :=
  let homeAt : Place := if home = ['/'] then [] else [[], name]
  let named := files.map fun f => ((Text.splitOn '/' f.1).filter fun n => !n.isEmpty, f.2)
  let above := (named.flatMap fun f => parents f.1).eraseDups.map fun p => (p, none)
  ⟨home, homeAt, (named ++ above).map fun (p, content) => (homeAt ++ p, content)⟩

/-- what stands at a place -/
def at? (d : Disk) (p : Place) : Option (Option Octets) :=
  if p.isPrefixOf d.homeAt then some none else (d.entries.find? (·.1 == p)).map (·.2)

/-- whether a place is a directory -/
def isDirectory (d : Disk) (p : Place) : Bool := d.at? p == some none

/-- the place one name further, whether it exists or not -/
def enter (p : Place) (name : Text) : Place :=
  if name.isEmpty ∨ name = ['.'] then p
  else if name = ['.', '.'] then p.dropLast
  else p ++ [name]

/-- one name further from a directory, if there is something -/
def step? (d : Disk) (p : Place) (name : Text) : Option Place :=
  if d.isDirectory p && (d.at? (enter p name)).isSome then some (enter p name) else none

/-- the path of the home directory without a slash at its end -/
def homePath (d : Disk) : Text := Text.trimEndWhere (· == '/') d.home

/-- what follows the path of the home directory in a path that leads there or below it -/
def belowHome? (d : Disk) (path : Text) : Option Text :=
  match Text.after? d.homePath path with
  | some [] => some []
  | some ('/' :: r) => some r
  | _ => none

/-- the place a path starts from, and the rest of the path -/
def start (d : Disk) (path : Text) : Place × Text :=
  match d.belowHome? path with
  | some r => (d.homeAt, r)
  | none => (if path.head? = some '/' then [] else d.homeAt, path)

/-- where a path leads -/
def place? (d : Disk) (path : Text) : Option Place :=
  if path.isEmpty then none
  else (Text.splitOn '/' (d.start path).2).foldlM d.step? (d.start path).1

/-- whether a path leads to a file -/
def isFile (d : Disk) (path : Text) : Bool :=
  match d.place? path with
  | some p => !d.isDirectory p
  | none => false

/-- whether a path leads to a directory -/
def isDirectoryAt (d : Disk) (path : Text) : Bool := (d.place? path).any d.isDirectory

/-- what can be told from a path alone: no file has such a name -/
def checkPath (path : Text) : Except Fault Unit :=
  if path.contains '\x00' then .error (.value "embedded null byte")
  else if (Text.splitOn '/' path).any fun n => maxName < (Utf8.encode n).length then
    .error (.system ("[Errno 36] File name too long: " ++ Text.quoted path))
  else .ok ()

/-- the content of a file -/
def read (d : Disk) (path : Text) : Except Fault Octets := do
  checkPath path
  match d.place? path with
  | none => throw (.noSuchFile path)
  | some p =>
    match d.at? p with
    | some (some b) => return b
    | _ => throw (.isDirectory path)

/-- where the directory of a path leads, and the name in it -/
def directoryOf (d : Disk) (path : Text) : Option Place × Text :=
  let (from', rest) := d.start path
  let names := Text.splitOn '/' rest
  (names.dropLast.foldlM d.step? from', names.getLast?.getD [])

/-- the disk with another entry -/
def put (d : Disk) (p : Place) (content : Option Octets) : Disk :=
  { d with entries := d.entries.filter (·.1 != p) ++ [(p, content)] }

/-- the disk with a file written -/
def write (d : Disk) (path : Text) (content : Octets) : Except Fault Disk := do
  checkPath path
  match d.directoryOf path with
  | (some p, name) =>
    if !d.isDirectory p then throw (.noSuchFile path)
    else if name.isEmpty ∨ name = ['.'] ∨ name = ['.', '.'] then throw (.isDirectory path)
    else if d.at? (p ++ [name]) = some none then throw (.isDirectory path)
    else return d.put (p ++ [name]) (some content)
  | _ => throw (.noSuchFile path)

/-- a directory made at each step of a path where there is none; those made before a fault stay -/
def makeSteps (d : Disk) (path : Text) (p : Place) : List Text → Except Fault Unit × Disk
  | [] => (.ok (), d)
  | n :: ns =>
    match d.step? p n with
    | some q => makeSteps d path q ns
    | none =>
      if d.isDirectory p then makeSteps (d.put (enter p n) none) path (enter p n) ns
      else (.error (.noSuchFile path), d)

/-- the disk with a directory made, and all directories above it -/
def makeDirectory (d : Disk) (path : Text) : Except Fault Unit × Disk :=
  match checkPath path with
  | .error f => (.error f, d)
  | .ok () => makeSteps d path (d.start path).1 (Text.splitOn '/' (d.start path).2)

/-- a path with `~` in front written as the home directory -/
def expandHome (d : Disk) : Text → Text
  | ['~'] => d.home
  | '~' :: '/' :: r => d.home ++ '/' :: r
  | path => path

/-- line breaks of every kind as line feeds -/
def plainLines : Text → Text
  | '\r' :: '\n' :: r => '\n' :: plainLines r
  | '\r' :: r => '\n' :: plainLines r
  | c :: r => c :: plainLines r
  | [] => []

/-- the text of the file that a value names, or the value itself if it names none; nothing if the file
is no text -/
def textOrSelf? (d : Disk) (value : Text) : Option Text :=
  if d.isFile value then
    match d.read value with
    | .ok b =>
      match Utf8.decode? b with
      | .ok t => some (plainLines t)
      | .error _ => none
    | .error _ => none
  else some value

/-- the files below the home directory that are not in a list, by path -/
def filesBeside (d : Disk) (given : List Text) : List (Text × Octets) :=
  let below := d.entries.filter fun e => d.homeAt.isPrefixOf e.1
  let files := below.filterMap fun e =>
    e.2.map fun b => (['/'].intercalate (e.1.drop d.homeAt.length), b)
  (files.filter fun f => !given.contains f.1).mergeSort fun a b => !(b.1 < a.1)

end Disk

namespace Attachment

/-- the extensions of files that can be attached unless others are given -/
def usualExtensions : List Text :=
  ["zip", "jpeg", "jpg", "png", "gif", "bmp", "tar", "gz", "7z", "csv", "txt", "xls", "doc", "ppt",
    "jar", "py", "java", "yml", "mp4", "mp3", "pdf", "ogg", "sql", "toml", "tiff", "mov", "aac",
    "xml", "json"]

/-- why a file cannot be attached -/
inductive Refusal where
  | missing (name : Text)
  | directory (name : Text)
  | badExtension (extension : Text) (allowed : List Text)
deriving DecidableEq, Repr

/-- texts in the order of their characters -/
def sortTexts (ts : List Text) : List Text := ts.mergeSort fun a b => !(b < a)

/-- the wording of a refusal -/
def Refusal.message : Refusal → Text
  | missing n => "File " ++ n ++ " does not exist"
  | directory n => "File " ++ n ++ " is a directory"
  | badExtension e allowed =>
    "Invalid extension \"." ++ e ++ "\"; available extensions: ["
      ++ [',', ' '].intercalate ((sortTexts allowed).map fun x => '"' :: x ++ ['"']) ++ "]"

/-- the path of a file to attach, and why it cannot be attached; no extensions at all stand for the
usual ones -/
def check (d : Disk) (path : Text) (allowed : List Text) : Text × Option Refusal :=
  let allowed := if allowed.isEmpty then usualExtensions else allowed
  let p := d.expandHome (Text.trim path)
  let name := Path.baseName p
  match d.place? p with
  | none => (p, some (.missing name))
  | some at' =>
    if d.isDirectory at' then (p, some (.directory name))
    else if allowed.contains (Path.extension p) then (p, none)
    else (p, some (.badExtension (Path.extension p) allowed))

end Attachment
end Mailroom
