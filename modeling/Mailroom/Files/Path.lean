import Mailroom.Text.Blank
import Mailroom.Text.Case

/-!
# File names

Paths are texts with `/` between their parts.

* `baseName`      the part behind the last `/`;
* `extension`     what follows the last dot of the base name, empty if nothing stands before the dot;
* `paths`         the paths of a comma-separated list.
-/

namespace Mailroom.Path

/-- the part of a path behind its last `/` -/
def baseName (path : Text) : Text := (path.reverse.takeWhile (· ≠ '/')).reverse

theorem not_mem_baseName (path : Text) : '/' ∉ baseName path := by
  intro h
  rw [baseName, List.mem_reverse] at h
  simpa using List.all_eq_true.1 (List.all_takeWhile (p := (· ≠ '/')) (l := path.reverse)) _ h

/-- what follows the last dot of a name; empty if the name has no dot or only a first one -/
def extensionOf (name : Text) : Text :=
  let r := name.reverse
  match r.dropWhile (· ≠ '.') with
  | _ :: _ :: _ => (r.takeWhile (· ≠ '.')).reverse
  | _ => []

/-- what follows the last dot of the base name -/
def extension (path : Text) : Text := extensionOf (baseName path)

/-- the extensions of pictures -/
def imageExtensions : List Text := ["jpg", "png", "gif", "bmp", "jpeg"]

/-- whether a path names a picture, by its extension in any case -/
def isImage (path : Text) : Bool := imageExtensions.contains (Text.lower (extension path))

/-- the non-empty paths of a comma-separated list -/
def paths (value : Text) : List Text := (Text.splitCommas value).filter fun p => !p.isEmpty

/-- a name inside a directory; a name that begins with `/` stands for itself -/
def join (dir name : Text) : Text :=
  match name with
  | '/' :: _ => name
  | _ => if dir.getLast? = some '/' ∨ dir.isEmpty then dir ++ name else dir ++ '/' :: name

end Mailroom.Path
