import Mathlib.Data.List.Basic
import Mailroom.Imap.Mailbox

/-!
# Folder names as the server reads them

An argument of a command is an atom or a quoted string.  The server takes an atom as it is, and the inside
of a quoted string with its backslashes undone.

* `standsBare`          a character that may stand outside of quotes;
* `namedIn?`            the name that an argument stands for, none if it is no argument;
* `namedIn?_inQuotes`   a quoted name is read back;
* `folderArgument_names`   which names the server reads back; no two names have one argument, and an
  argument is its own argument.
-/

namespace Mailroom.Imap

/-! ## reading arguments -/

/-- the visible characters of ASCII that may not stand in an argument without quotes -/
def bareSpecials : Text := ['(', ')', '\x7b', '%', '*', '"', '\\']

/-- a character that may stand in an argument without quotes -/
def standsBare (c : Char) : Bool :=
  0x21 ≤ c.toNat && c.toNat ≤ 0x7e && !bareSpecials.contains c

/-- what stands for the inside of a quoted string, up to the quote at its end; only quotes and backslashes
stand behind a backslash -/
def insideQuotes? : Text → Option Text
  | [] => none
  | ['"'] => some []
  | '\\' :: c :: r => if c = '"' ∨ c = '\\' then (insideQuotes? r).map (c :: ·) else none
  | c :: r => if c = '"' ∨ c = '\\' then none else (insideQuotes? r).map (c :: ·)

/-- the name that an argument stands for -/
def namedIn? (argument : Text) : Option Text :=
  match argument with
  | [] => none
  | '"' :: r => insideQuotes? r
  | a => if a.all standsBare then some a else none

variable {name other : Text}

/-! ## quoted names -/

/-- a name in quotes, with a backslash in front of quotes and backslashes -/
def inQuotes (name : Text) : Text :=
  '"' :: name.flatMap (fun c => if c = '"' ∨ c = '\\' then ['\\', c] else [c]) ++ ['"']

theorem insideQuotes?_cons {c : Char} (hquote : c ≠ '"') (hslash : c ≠ '\\') (r : Text) :
    insideQuotes? (c :: r) = (insideQuotes? r).map (c :: ·) := by
  rw [insideQuotes?.eq_4]
  · rw [if_neg (by simp [hquote, hslash])]
  · rintro rfl
    exact absurd rfl hquote
  · rintro d r rfl
    exact absurd rfl hslash

theorem namedIn?_inQuotes (name : Text) : namedIn? (inQuotes name) = some name := by
  show insideQuotes? (name.flatMap _ ++ ['"']) = some name
  induction name with
  | nil => rfl
  | cons c r ih =>
    rw [List.flatMap_cons, List.append_assoc]
    by_cases hc : c = '"' ∨ c = '\\'
    · rw [if_pos hc]
      show insideQuotes? ('\\' :: c :: (_ ++ ['"'])) = _
      rw [insideQuotes?, if_pos hc, ih]
      rfl
    · rw [if_neg hc]
      rw [not_or] at hc
      show insideQuotes? (c :: (_ ++ ['"'])) = _
      rw [insideQuotes?_cons hc.1 hc.2, ih]
      rfl

/-! ## arguments of names -/

theorem folderArgument_of_needsQuotes (hquote : name.head? ≠ some '"') (h : name.any needsQuotes = true) :
    folderArgument name = inQuotes name := by
  rw [folderArgument, if_neg]
  · rfl
  · simp [hquote, h]

theorem folderArgument_of_not_needsQuotes (h : name.any needsQuotes = false) : folderArgument name = name := by
  rw [folderArgument, if_pos]
  simp [h]

theorem folderArgument_of_head (h : name.head? = some '"') : folderArgument name = name := by
  rw [folderArgument, if_pos (.inl h)]

/-- an argument without quotes at its front is an atom or nothing -/
theorem namedIn?_of_head (hne : name ≠ []) (hquote : name.head? ≠ some '"') :
    namedIn? name = if name.all standsBare then some name else none := by
  unfold namedIn?
  split
  · exact absurd rfl hne
  · exact absurd rfl hquote
  · rfl

/-- **Folder names.**  The server reads the name of a folder back from its argument exactly if the name is
put into quotes, which blanks, quotes and backslashes do, or is an atom.  No two names have one argument,
and an argument is its own argument. -/
theorem folderArgument_names (name : Text) (hne : name ≠ []) (hquote : name.head? ≠ some '"') :
    (namedIn? (folderArgument name) = some name ↔
      name.any needsQuotes = true ∨ name.all standsBare = true) ∧
    (∀ other : Text, other.head? ≠ some '"' → folderArgument other = folderArgument name → other = name) ∧
    folderArgument (folderArgument name) = folderArgument name := by
  cases hneeds : name.any needsQuotes with
  | true =>
    rw [folderArgument_of_needsQuotes hquote hneeds]
    refine ⟨by simp [namedIn?_inQuotes], ?_, folderArgument_of_head rfl⟩
    intro other hother h
    cases hother' : other.any needsQuotes with
    | true =>
      -- both stand in quotes, so that the server reads both from one argument
      rw [folderArgument_of_needsQuotes hother hother'] at h
      have hread := congrArg namedIn? h
      rw [namedIn?_inQuotes, namedIn?_inQuotes] at hread
      exact Option.some.inj hread
    | false =>
      rw [folderArgument_of_not_needsQuotes hother'] at h
      rw [h] at hother
      exact absurd rfl hother
  | false =>
    rw [folderArgument_of_not_needsQuotes hneeds]
    refine ⟨?_, ?_, folderArgument_of_not_needsQuotes hneeds⟩
    · rw [namedIn?_of_head hne hquote]
      simp
    · intro other hother h
      cases hother' : other.any needsQuotes with
      | true =>
        rw [folderArgument_of_needsQuotes hother hother'] at h
        rw [← h] at hquote
        exact absurd rfl hquote
      | false =>
        rw [folderArgument_of_not_needsQuotes hother'] at h
        exact h

/-- a name with a blank, a quote and a backslash, whose other characters could not stand in an atom -/
theorem folderArgument_names_quoted :
    "R&D \"a\\b\" (é)".toList ≠ [] ∧ "R&D \"a\\b\" (é)".toList.head? ≠ some '"' ∧
      namedIn? (folderArgument "R&D \"a\\b\" (é)") = some "R&D \"a\\b\" (é)".toList :=
  ⟨by decide, by decide, (folderArgument_names _ (by decide) (by decide)).1.2 (.inl (by decide))⟩

/-- a parenthesis alone does not put a name into quotes, and the argument is none -/
theorem folderArgument_unquoted_parenthesis :
    folderArgument "a(b" = "a(b".toList ∧ namedIn? (folderArgument "a(b") = none := by
  decide

end Mailroom.Imap
