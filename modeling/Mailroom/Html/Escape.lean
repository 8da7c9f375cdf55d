import Mailroom.Text.Blank
import Mailroom.Text.Digit

/-!
# Text that must not look like marks

In plain text a dash, a plus sign or a number with a point at the beginning of a line marks the item of
a list.  Where they are meant as text a backslash stands in front of them, and where a backslash could
be taken for such a mark it stands twice.

* `escapeMarks`   a text with these backslashes.

Main statement: a text without backslash, plus sign, dash and point stays as it is
(`escapeMarks_of_forall`).
-/

namespace Mailroom.Html

/-- the characters that a backslash can stand in front of -/
def markChars : Text := "\\\x60*_\x7b\x7d[]()#+-.!"

/-- backslashes that could be marks written twice -/
def doubleBackslashes : Text → Text
  | [] => []
  | c :: r =>
    if c = '\\' ∧ r.head?.any markChars.contains then '\\' :: c :: doubleBackslashes r
    else c :: doubleBackslashes r

/-- where in a line a character stands -/
inductive LinePlace where
  /-- nothing but blanks before it -/
  | front
  /-- nothing but blanks and digits before it -/
  | number
  | inside
deriving DecidableEq, Repr

/-- whether a character at a place would mark the item of a list, given what follows -/
def isMark (place : LinePlace) (c : Char) (r : Text) : Bool :=
  match place with
  | .front =>
    (c == '+' && r.head?.any Text.isBlank)
      || (c == '-' && r.head?.any fun d => Text.isBlank d || d == '-')
  | .number => c == '.' && r.head?.any Text.isBlank
  | .inside => false

/-- the place behind a character -/
def LinePlace.next (place : LinePlace) (c : Char) : LinePlace :=
  if c = '\n' then .front
  else
    match place with
    | .front => if Text.isBlank c then .front else if Text.isDigit c then .number else .inside
    | .number => if Text.isDigit c then .number else .inside
    | .inside => .inside

/-- the marks of a text with backslashes in front of them -/
def escapeFrom (place : LinePlace) : Text → Text
  | [] => []
  | c :: r =>
    if isMark place c r then '\\' :: c :: escapeFrom (place.next c) r
    else c :: escapeFrom (place.next c) r

/-- a text with backslashes where something in it would be a mark -/
def escapeMarks (s : Text) : Text := escapeFrom .front (doubleBackslashes s)

theorem doubleBackslashes_of_not_mem {s : Text} (h : '\\' ∉ s) : doubleBackslashes s = s := by
  induction s with
  | nil => rfl
  | cons c r ih =>
    rw [List.mem_cons, not_or] at h
    rw [doubleBackslashes, if_neg (fun hc => h.1 hc.1.symm), ih h.2]

theorem escapeFrom_of_forall {s : Text} (h : ∀ c ∈ s, c ≠ '+' ∧ c ≠ '-' ∧ c ≠ '.')
    (place : LinePlace) : escapeFrom place s = s := by
  induction s generalizing place with
  | nil => rfl
  | cons c r ih =>
    have hc := h c List.mem_cons_self
    have hm : isMark place c r = false := by cases place <;> simp [isMark, hc]
    rw [escapeFrom, hm, ih fun d hd => h d (List.mem_cons_of_mem _ hd)]
    simp

theorem escapeMarks_of_forall {s : Text} (h : ∀ c ∈ s, c ≠ '\\' ∧ c ≠ '+' ∧ c ≠ '-' ∧ c ≠ '.') :
    escapeMarks s = s := by
  have hb : '\\' ∉ s := fun hm => (h _ hm).1 rfl
  rw [escapeMarks, doubleBackslashes_of_not_mem hb, escapeFrom_of_forall fun c hc => (h c hc).2]

end Mailroom.Html
