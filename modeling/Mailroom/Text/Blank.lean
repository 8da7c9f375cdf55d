import Mailroom.Text.Basic

/-!
# White space

`isBlank` is the white space of Unicode together with the four ASCII separators U+001C to U+001F,
29 characters in all.  Main statement: core's white space is blank (`isBlank_of_isWhitespace`).
-/

namespace Mailroom.Text

/-- white space in any script -/
def isBlank (c : Char) : Bool :=
  let n := c.toNat
  (0x9 ≤ n && n ≤ 0xd) || (0x1c ≤ n && n ≤ 0x20) || n == 0x85 || n == 0xa0 || n == 0x1680
    || (0x2000 ≤ n && n ≤ 0x200a) || n == 0x2028 || n == 0x2029 || n == 0x202f || n == 0x205f
    || n == 0x3000

theorem isBlank_of_isWhitespace {c : Char} (h : c.isWhitespace = true) : isBlank c = true := by
  simp only [Char.isWhitespace, Bool.or_eq_true, decide_eq_true_eq] at h
  rcases h with ((h | h) | h) | h <;> subst h <;> decide

/-- blanks dropped at both ends -/
def trim (s : Text) : Text := trimWhere isBlank s

/-- blanks dropped at the front -/
def trimStart (s : Text) : Text := s.dropWhile isBlank

/-- blanks dropped at the end -/
def trimEnd (s : Text) : Text := trimEndWhere isBlank s

/-- the longest pieces without a blank -/
def words (s : Text) : List Text := wordsBy isBlank s

/-- the pieces between commas, without the blanks around them -/
def splitCommas (s : Text) : List Text := (splitOn ',' (trim s)).map trim

end Mailroom.Text
