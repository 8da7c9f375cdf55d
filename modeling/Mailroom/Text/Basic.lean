/-!
# Text as a list of characters

Everything the library reads, compares and writes is a `Text`, a list of Unicode characters, so that
every operation below is a recursion over the characters.

* `splitOn sep s`   the pieces of `s` between the occurrences of `sep`, never an empty list;
* `occursIn w s`    whether `w` is a contiguous part of `s`;
* `decimal n`       a natural number in decimal digits.

Main statements: the pieces of a text joined at `sep` are the pieces of both halves
(`splitOn_append_cons`), pieces hold no separator (`not_mem_of_mem_splitOn`), and joining the pieces
gives the text back (`intercalate_splitOn`).
-/

namespace Mailroom

/-- a text: its characters in order -/
abbrev Text := List Char

/-- octets as they stand in a file or on a connection -/
abbrev Octets := List UInt8

instance : Coe String Text := ⟨String.toList⟩

namespace Text

/-! ## pieces between separators -/

/-- the pieces of a text between the occurrences of `sep` -/
def splitOn (sep : Char) : Text → List Text
  | [] => [[]]
  | c :: r =>
    if c = sep then [] :: splitOn sep r
    else
      match splitOn sep r with
      | [] => [[c]]
      | p :: ps => (c :: p) :: ps

theorem splitOn_nil (sep : Char) : splitOn sep [] = [[]] := rfl

theorem splitOn_ne_nil (sep : Char) (s : Text) : splitOn sep s ≠ [] := by
  cases s with
  | nil => simp [splitOn]
  | cons c r =>
    rw [splitOn]
    split
    · simp
    · split <;> simp

theorem splitOn_cons_sep (sep : Char) (r : Text) :
    splitOn sep (sep :: r) = [] :: splitOn sep r := by
  simp [splitOn]

theorem splitOn_append_cons (sep : Char) (a b : Text) :
    splitOn sep (a ++ sep :: b) = splitOn sep a ++ splitOn sep b := by
  induction a with
  | nil => simp [splitOn]
  | cons c r ih =>
    rw [List.cons_append, splitOn, splitOn, ih]
    by_cases h : c = sep
    · simp [h]
    · have hne := splitOn_ne_nil sep r
      cases hs : splitOn sep r with
      | nil => exact absurd hs hne
      | cons p ps => simp [h]

theorem not_mem_of_mem_splitOn {sep : Char} {s p : Text} (h : p ∈ splitOn sep s) : sep ∉ p := by
  induction s generalizing p with
  | nil => simp [splitOn] at h; simp [h]
  | cons c r ih =>
    rw [splitOn] at h
    split at h
    · rcases List.mem_cons.1 h with h | h
      · simp [h]
      · exact ih h
    · rename_i hc
      split at h
      · simp at h; simp [h, Ne.symm hc]
      · rename_i q qs hs
        rcases List.mem_cons.1 h with h | h
        · rw [h, List.mem_cons]
          rintro (h' | h')
          · exact hc h'.symm
          · exact ih (hs ▸ List.mem_cons_self) h'
        · exact ih (hs ▸ List.mem_cons_of_mem _ h)

theorem splitOn_of_not_mem {sep : Char} {s : Text} (h : sep ∉ s) : splitOn sep s = [s] := by
  induction s with
  | nil => rfl
  | cons c r ih =>
    rw [List.mem_cons, not_or] at h
    rw [splitOn, ih h.2, if_neg (Ne.symm h.1)]

theorem intercalate_splitOn (sep : Char) (s : Text) : [sep].intercalate (splitOn sep s) = s := by
  induction s with
  | nil => rfl
  | cons c r ih =>
    rw [splitOn]
    split
    · rename_i h
      cases hs : splitOn sep r with
      | nil => exact absurd hs (splitOn_ne_nil sep r)
      | cons p ps => rw [hs] at ih; simp [List.intercalate_cons_cons, ih, h]
    · split
      · rename_i hs; exact absurd hs (splitOn_ne_nil sep r)
      · rename_i p ps hs
        rw [hs] at ih
        cases ps with
        | nil => simpa using ih
        | cons q qs => simpa [List.intercalate_cons_cons] using ih

/-- the text before the first `sep`, and the text after it if there is one -/
def cutAt (sep : Char) : Text → Text × Option Text
  | [] => ([], none)
  | c :: r =>
    if c = sep then ([], some r)
    else ((c :: (cutAt sep r).1), (cutAt sep r).2)

/-! ## parts of a text -/

/-- whether `w` is a contiguous part of the text -/
def occursIn (w : Text) : Text → Bool
  | [] => w.isEmpty
  | c :: r => w.isPrefixOf (c :: r) || occursIn w r

/-- what follows `w` at the front of the text -/
def after? (w : Text) (s : Text) : Option Text :=
  if w.isPrefixOf s then some (s.drop w.length) else none

/-- every occurrence of the character `c` written as `by'` -/
def replaceChar (c : Char) (new : Text) (s : Text) : Text :=
  s.flatMap fun d => if d = c then new else [d]

/-- the occurrences of `old`, found from the left and not overlapping, written as `new` -/
def replaceAll (old new : Text) (s : Text) : Text :=
  go s.length s
where
  go : Nat → Text → Text
    | _, [] => []
    | 0, s => s
    | n + 1, c :: r =>
      match old, after? old (c :: r) with
      | _ :: _, some rest => new ++ go n rest
      | _, _ => c :: go n r

/-- leading characters of a kind dropped at both ends -/
def trimWhere (p : Char → Bool) (s : Text) : Text :=
  ((s.dropWhile p).reverse.dropWhile p).reverse

/-- trailing characters of a kind dropped -/
def trimEndWhere (p : Char → Bool) (s : Text) : Text :=
  (s.reverse.dropWhile p).reverse

/-- the longest pieces without a character of the kind `p` -/
def wordsBy (p : Char → Bool) : Text → List Text
  | [] => []
  | c :: r =>
    if p c then wordsBy p r
    else
      match r, wordsBy p r with
      | [], _ => [[c]]
      | d :: _, ws =>
        if p d then [c] :: ws
        else
          match ws with
          | [] => [[c]]
          | w :: rest => (c :: w) :: rest

/-! ## numbers -/

/-- a natural number in decimal digits -/
def decimal (n : Nat) : Text := Nat.toDigits 10 n

/-- an integer in decimal digits, with `-` in front of a negative one -/
def decimalInt : Int → Text
  | .ofNat n => decimal n
  | .negSucc n => '-' :: decimal (n + 1)

/-- at least `width` characters, filled with `fill` on the left -/
def padLeft (width : Nat) (fill : Char) (s : Text) : Text :=
  List.replicate (width - s.length) fill ++ s

/-- at least `width` characters, filled with spaces on the right -/
def padRight (width : Nat) (s : Text) : Text :=
  s ++ List.replicate (width - s.length) ' '

/-- a natural number in at least two digits -/
def twoDigits (n : Nat) : Text := padLeft 2 '0' (decimal n)

/-- a natural number in at least four digits -/
def fourDigits (n : Nat) : Text := padLeft 4 '0' (decimal n)

/-! ## ASCII -/

/-- one of the first 128 characters -/
def isAscii (c : Char) : Bool := c.toNat < 128

/-- a decimal digit `0` to `9` and its value -/
def asciiDigit? (c : Char) : Option Nat :=
  if '0' ≤ c ∧ c ≤ '9' then some (c.toNat - '0'.toNat) else none

/-- an ASCII letter -/
def isAsciiLetter (c : Char) : Bool := ('a' ≤ c && c ≤ 'z') || ('A' ≤ c && c ≤ 'Z')

/-- ASCII letters in lower case, every other character as it is -/
def asciiLower (s : Text) : Text := s.map Char.toLower

/-- a hexadecimal digit and its value -/
def hexDigit? (c : Char) : Option Nat :=
  if '0' ≤ c ∧ c ≤ '9' then some (c.toNat - '0'.toNat)
  else if 'a' ≤ c ∧ c ≤ 'f' then some (c.toNat - 'a'.toNat + 10)
  else if 'A' ≤ c ∧ c ≤ 'F' then some (c.toNat - 'A'.toNat + 10)
  else none

/-- the characters of a text, one octet each; only for text known to be below 256 -/
def toOctets (s : Text) : Octets := s.map fun c => UInt8.ofNat c.toNat

/-- octets read as the characters with the same numbers -/
def ofOctets (b : Octets) : Text := b.map fun x => Char.ofNat x.toNat

end Text
end Mailroom
