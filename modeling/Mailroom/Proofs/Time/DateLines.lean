import Mathlib.Data.List.Basic
import Mailroom.Proofs.Text.Ascii
import Mailroom.Proofs.Text.Pieces
import Mailroom.Proofs.Time.Spoken
import Mailroom.Time.Letter

/-!
# Dates of letters as they are written

The standard of mail lets a date begin with the day of the week, lets blanks stand between its words, and
lets anything stand behind it that begins with a blank.

* `Gap`, `Weekday`, `DateLine`   the dates of the standard, in all their spellings;
* `DateLine.moment`              the moment that such a date names;
* `DateLine.Regular`             the dates that name one that clocks can show;
* `dropWeekday_words`            the words of such a date, without the day of the week.
-/

namespace Mailroom

open Text (twoDigits fourDigits decimal padLeft asciiDigit? digitsValue asciiLower isAsciiLetter)

namespace Letter

/-! ## the standard form -/

/-- a blank of a header on one line -/
def IsGap (c : Char) : Prop := c = ' ' ∨ c = '\t'

/-- the blanks between two words -/
structure Gap where
  text : Text
  ne_nil : text ≠ []
  blank : ∀ c ∈ text, IsGap c

/-- one blank -/
def Gap.single : Gap := ⟨[' '], by simp, by simp [IsGap]⟩

/-- a day of the week with its comma, and the blanks behind it, if there are any -/
structure Weekday where
  name : Text
  isName : asciiLower name ∈ Date.weekdayNames.map asciiLower
  behind : Text
  blank : ∀ c ∈ behind, IsGap c

/-- the date of a letter as it is written; the day and the time need not exist -/
structure DateLine where
  /-- the blanks in front -/
  indent : Text
  weekday : Option Weekday
  day : Fin 100
  /-- whether a day below ten has a zero in front -/
  padded : Bool
  afterDay : Gap
  month : Fin 12
  /-- the name of the month in upper and lower case -/
  monthText : Text
  afterMonth : Gap
  year : Nat
  /-- how many digits the year has at least -/
  width : Nat
  afterYear : Gap
  hour : Fin 100
  minute : Fin 100
  second : Option (Fin 100)
  afterTime : Gap
  /-- whether the clock is behind that of Greenwich -/
  west : Bool
  hourOff : Fin 100
  minuteOff : Fin 100
  /-- what stands behind the date -/
  rest : Text
  blank : ∀ c ∈ indent, IsGap c
  isMonth : asciiLower monthText = asciiLower (Date.monthName (month + 1))
  four_le : 4 ≤ width
  apart : ∀ c ∈ rest.head?, IsGap c

namespace DateLine

/-- a date without a day of the week, its words one blank apart -/
def plain (day : Fin 100) (month : Fin 12) (year : Nat) (hour minute : Fin 100) (second : Option (Fin 100))
    (west : Bool) (hourOff minuteOff : Fin 100) : DateLine :=
  { day, month, year, hour, minute, second, west, hourOff, minuteOff
    indent := []
    weekday := none
    padded := true
    afterDay := .single
    monthText := Date.monthName (month + 1)
    afterMonth := .single
    width := 4
    afterYear := .single
    afterTime := .single
    rest := []
    blank := by simp
    isMonth := rfl
    four_le := Nat.le_refl 4
    apart := by simp }

variable (d : DateLine)

/-- the day of the week, if there is one -/
def weekdayText : Text :=
  match d.weekday with
  | none => []
  | some w => w.name ++ ',' :: w.behind

/-- the day in one digit or two -/
def dayText : Text := if d.padded then twoDigits d.day else decimal d.day

/-- the year in at least four digits -/
def yearText : Text := padLeft d.width '0' (decimal d.year)

/-- the seconds, if there are any -/
def secondText : Text :=
  match d.second with
  | none => []
  | some s => ':' :: twoDigits s

/-- the time, with seconds or without -/
def timeText : Text := twoDigits d.hour ++ ':' :: (twoDigits d.minute ++ d.secondText)

/-- the offset of the clock with its sign -/
def offsetText : Text := (if d.west then '-' else '+') :: (twoDigits d.hourOff ++ twoDigits d.minuteOff)

/-- a date as it is written -/
def text : Text :=
  d.indent ++ (d.weekdayText ++ (d.dayText ++ (d.afterDay.text ++ (d.monthText ++ (d.afterMonth.text
    ++ (d.yearText ++ (d.afterYear.text ++ (d.timeText ++ (d.afterTime.text ++ (d.offsetText ++ d.rest))))))))))

/-- the date and the time that are named -/
def reading : Reading :=
  ⟨⟨d.year, d.month + 1, d.day⟩, d.hour, d.minute, d.second.elim 0 Fin.val⟩

/-- the offset of the clock in seconds -/
def offset : Int := (if d.west then -1 else 1) * (d.hourOff * 3600 + d.minuteOff * 60 : Nat)

/-- the instant that is named -/
def instant : Int := d.reading.toSeconds - d.offset

/-- the offset is known; it is not where it is written `-0000` -/
def Known : Prop := ¬(d.west = true ∧ d.hourOff.val = 0 ∧ d.minuteOff.val = 0)

instance : Decidable d.Known := by unfold Known; infer_instance

/-- the moment that is named, without an offset where none is known -/
def moment : Moment := if d.Known then .fixed ⟨d.instant, 0, d.offset⟩ else .floating d.reading.toSeconds 0

/-- the day and the time exist, the year is not taken for a short one and has no more digits than are read,
and the offset is less than a day -/
structure Regular : Prop where
  valid : d.reading.IsValid
  year : 100 ≤ d.year
  width : d.width ≤ 4300
  offset : WithinDay d.offset

end DateLine

/-! ## words -/

theorem isBlank_of_isGap {c : Char} (h : IsGap c) : Text.isBlank c = true := by
  rcases h with rfl | rfl <;> decide

theorem words_append_of_blank {s r : Text} (h : ∀ c ∈ s, IsGap c) : Text.words (s ++ r) = Text.words r := by
  induction s with
  | nil => rfl
  | cons c s ih =>
    rw [List.forall_mem_cons] at h
    exact (Text.wordsBy_cons_of_pos (isBlank_of_isGap h.1)).trans (ih h.2)

/-- a word, the blanks behind it, and the rest -/
theorem words_append_gap {w r : Text} (hne : w ≠ []) (hw : ∀ c ∈ w, Text.isBlank c = false) (g : Gap) :
    Text.words (w ++ (g.text ++ r)) = w :: Text.words r := by
  have hhead : ∀ c ∈ (g.text ++ r).head?, Text.isBlank c = true := by
    intro c hc
    obtain ⟨b, t, hb⟩ := List.exists_cons_of_ne_nil g.ne_nil
    rw [hb, List.cons_append, List.head?_cons, Option.mem_some_iff] at hc
    exact isBlank_of_isGap (g.blank c (by rw [hb, hc]; exact List.mem_cons_self))
  exact (Text.wordsBy_append hne hw hhead).trans (congrArg _ (words_append_of_blank g.blank))

/-- a word at the end, and what may stand behind it -/
theorem words_append_rest {w r : Text} (hne : w ≠ []) (hw : ∀ c ∈ w, Text.isBlank c = false)
    (hr : ∀ c ∈ r.head?, IsGap c) : Text.words (w ++ r) = w :: Text.words r :=
  Text.wordsBy_append hne hw fun c hc => isBlank_of_isGap (hr c hc)

theorem not_isBlank_of_isDigit {c : Char} (h : c.isDigit = true) : Text.isBlank c = false :=
  Text.forall_digit (p := fun c => Text.isBlank c = false) (by decide) h

theorem not_isBlank_of_isAsciiLetter {c : Char} (h : isAsciiLetter c = true) : Text.isBlank c = false := by
  exact Text.forall_ascii (p := fun c => isAsciiLetter c = true → Text.isBlank c = false) (by decide)
    (Text.lt_of_isAsciiLetter h) h

namespace DateLine

variable {d : DateLine}

theorem isDigit_of_mem_dayText {c : Char} (h : c ∈ d.dayText) : c.isDigit = true := by
  unfold dayText at h
  split at h
  · exact Text.isDigit_of_mem_padLeft h
  · exact Text.isDigit_of_mem_decimal h

theorem dayText_ne_nil : d.dayText ≠ [] := by
  unfold dayText
  split
  · exact Text.padLeft_decimal_ne_nil _ _
  · exact Text.decimal_ne_nil _

theorem isAsciiLetter_of_mem_monthText {c : Char} (h : c ∈ d.monthText) : isAsciiLetter c = true := by
  have hall : ∀ m : Fin 12, (asciiLower (Date.monthName (m + 1))).all isAsciiLetter = true := by decide
  exact Text.letters_of_asciiLower d.isMonth (hall d.month) c h

theorem monthText_ne_nil : d.monthText ≠ [] := by
  have hall : ∀ m : Fin 12, asciiLower (Date.monthName (m + 1)) ≠ [] := by decide
  intro h
  have hmonth := d.isMonth
  rw [h] at hmonth
  exact hall d.month hmonth.symm

theorem isDigit_of_mem_yearText {c : Char} (h : c ∈ d.yearText) : c.isDigit = true :=
  Text.isDigit_of_mem_padLeft h

theorem yearText_ne_nil : d.yearText ≠ [] := Text.padLeft_decimal_ne_nil _ _

theorem of_mem_timeText {c : Char} (h : c ∈ d.timeText) : c.isDigit = true ∨ c = ':' := by
  unfold timeText secondText at h
  rw [List.mem_append, List.mem_cons, List.mem_append] at h
  rcases h with h | h | h | h
  · exact .inl (Text.isDigit_of_mem_padLeft h)
  · exact .inr h
  · exact .inl (Text.isDigit_of_mem_padLeft h)
  · split at h
    · cases h
    · rcases List.mem_cons.1 h with h | h
      · exact .inr h
      · exact .inl (Text.isDigit_of_mem_padLeft h)

theorem not_isBlank_of_mem_timeText {c : Char} (h : c ∈ d.timeText) : Text.isBlank c = false := by
  rcases of_mem_timeText h with h | rfl
  · exact not_isBlank_of_isDigit h
  · decide

theorem not_isBlank_of_mem_offsetText {c : Char} (h : c ∈ d.offsetText) : Text.isBlank c = false := by
  unfold offsetText at h
  rw [List.mem_cons, List.mem_append] at h
  rcases h with h | h | h
  · split at h <;> rw [h] <;> decide
  · exact not_isBlank_of_isDigit (Text.isDigit_of_mem_padLeft h)
  · exact not_isBlank_of_isDigit (Text.isDigit_of_mem_padLeft h)

theorem offsetText_ne_nil : d.offsetText ≠ [] := List.cons_ne_nil _ _

/-- the words behind the day -/
theorem words_behind_day : Text.words (d.monthText ++ (d.afterMonth.text ++ (d.yearText
    ++ (d.afterYear.text ++ (d.timeText ++ (d.afterTime.text ++ (d.offsetText ++ d.rest))))))) =
    d.monthText :: d.yearText :: d.timeText :: d.offsetText :: Text.words d.rest := by
  have hmonth : ∀ c ∈ d.monthText, Text.isBlank c = false :=
    fun c hc => not_isBlank_of_isAsciiLetter (isAsciiLetter_of_mem_monthText hc)
  have hyear : ∀ c ∈ d.yearText, Text.isBlank c = false :=
    fun c hc => not_isBlank_of_isDigit (isDigit_of_mem_yearText hc)
  have htime : d.timeText ≠ [] := List.append_ne_nil_of_left_ne_nil (Text.padLeft_decimal_ne_nil _ _) _
  rw [words_append_gap monthText_ne_nil hmonth, words_append_gap yearText_ne_nil hyear,
    words_append_gap htime fun c hc => not_isBlank_of_mem_timeText hc,
    words_append_rest offsetText_ne_nil (fun c hc => not_isBlank_of_mem_offsetText hc) d.apart]

end DateLine

/-! ## the day of the week -/

theorem all_weekdayNames : ∀ n ∈ Date.weekdayNames.map asciiLower, n.all isAsciiLetter = true := by decide

/-- a word that ends with a comma is passed over -/
theorem dropWeekday_name (name : Text) (ws : List Text) : dropWeekday ((name ++ [',']) :: ws) = ws := by
  rw [dropWeekday, if_pos (.inl (by simp))]

section
variable {name w : Text} {ws : List Text} (hname : ∀ c ∈ name, isAsciiLetter c = true) (hne : w ≠ [])
  (hw : ∀ c ∈ w, c.isDigit = true)
include hne hw

/-- a word that ends with digits is no day of the week -/
theorem not_weekday (hname : ∀ c ∈ name, c.toNat < 128) : ¬((name ++ w).getLast? = some ',' ∨
    (Date.weekdayNames.map asciiLower).contains (Text.lower (name ++ w)) = true) := by
  obtain ⟨x, r, rfl⟩ := List.exists_cons_of_ne_nil hne
  have hascii : ∀ c ∈ name ++ x :: r, c.toNat < 128 := by
    rw [List.forall_mem_append]
    exact ⟨hname, fun c hc => Text.lt_of_isDigit (hw c hc)⟩
  rintro (h | h)
  · have hlast := List.getLast?_append_of_ne_nil name (List.cons_ne_nil x r)
    rw [h] at hlast
    exact absurd (hw _ (List.mem_of_getLast? hlast.symm)) (by decide)
  · rw [Text.lower_of_ascii hascii, List.contains_eq_mem, decide_eq_true_eq] at h
    have hletter := Text.letters_of_asciiLower rfl (all_weekdayNames _ h) x (by simp)
    rw [Text.not_isAsciiLetter_of_isDigit (hw x List.mem_cons_self)] at hletter
    cases hletter

theorem dropWeekday_digits : dropWeekday (w :: ws) = w :: ws := by
  have hcomma : ',' ∉ w := fun h => absurd (hw _ h) (by decide)
  have hnot := @not_weekday [] w hne hw (by simp)
  rw [List.nil_append] at hnot
  rw [dropWeekday, if_neg hnot, Text.splitOn_of_not_mem hcomma]
  rfl

include hname

/-- of a word with a comma inside, the part behind it is left -/
theorem dropWeekday_joined : dropWeekday ((name ++ ',' :: w) :: ws) = w :: ws := by
  have hcomma : ',' ∉ w := fun h => absurd (hw _ h) (by decide)
  have hfront : ',' ∉ name := fun h => absurd (hname _ h) (by decide)
  have hascii : ∀ c ∈ name ++ [','], c.toNat < 128 := by
    rw [List.forall_mem_append]
    exact ⟨fun c hc => Text.lt_of_isAsciiLetter (hname c hc), List.forall_mem_singleton.2 (by decide)⟩
  have hnot := not_weekday hne hw hascii
  rw [← List.append_cons] at hnot
  rw [dropWeekday, if_neg hnot, Text.splitOn_append_cons, Text.splitOn_of_not_mem hcomma,
    Text.splitOn_of_not_mem hfront]
  rfl

end

/-- the words behind the day of the week -/
theorem DateLine.dropWeekday_words (d : DateLine) : dropWeekday (Text.words d.text) =
    d.dayText :: d.monthText :: d.yearText :: d.timeText :: d.offsetText :: Text.words d.rest := by
  have hdigit : ∀ c ∈ d.dayText, c.isDigit = true := fun c hc => isDigit_of_mem_dayText hc
  have hday : ∀ c ∈ d.dayText, Text.isBlank c = false := fun c hc => not_isBlank_of_isDigit (hdigit c hc)
  unfold text weekdayText
  rw [words_append_of_blank d.blank]
  cases d.weekday with
  | none =>
    dsimp only
    rw [List.nil_append, words_append_gap dayText_ne_nil hday, words_behind_day,
      dropWeekday_digits dayText_ne_nil hdigit]
  | some w =>
    obtain ⟨name, hname, behind, hblank⟩ := w
    have hletters := Text.letters_of_asciiLower rfl (all_weekdayNames _ hname)
    have hfront : ∀ c ∈ name ++ [','], Text.isBlank c = false := by
      rw [List.forall_mem_append]
      exact ⟨fun c hc => not_isBlank_of_isAsciiLetter (hletters c hc), List.forall_mem_singleton.2 (by decide)⟩
    dsimp only
    rw [List.append_assoc, List.cons_append]
    by_cases hbehind : behind = []
    · -- the day stands in one word with its day of the week
      have hword : ∀ c ∈ name ++ ',' :: d.dayText, Text.isBlank c = false := by
        rw [List.append_cons, List.forall_mem_append]
        exact ⟨hfront, hday⟩
      rw [hbehind, List.nil_append, ← List.cons_append, ← List.append_assoc,
        words_append_gap (by simp) hword, words_behind_day, dropWeekday_joined hletters dayText_ne_nil hdigit]
    · rw [List.append_cons, words_append_gap (by simp) hfront ⟨behind, hbehind, hblank⟩,
        dropWeekday_name, words_append_gap dayText_ne_nil hday, words_behind_day]

/-- a date with a small letter in its day, capitals in its month, no seconds and a comment -/
def DateLine.newfoundland : DateLine :=
  { plain ⟨15, by decide⟩ ⟨0, by decide⟩ 2024 ⟨10, by decide⟩ ⟨30, by decide⟩ none true ⟨3, by decide⟩
      ⟨30, by decide⟩ with
    weekday := some ⟨"mon", by decide, [], by simp⟩
    afterDay := ⟨['\t'], by simp, by simp [IsGap]⟩
    monthText := "JAN"
    rest := " (NST)"
    isMonth := by decide
    apart := by simp [IsGap] }

example : DateLine.newfoundland.text = "mon,15\tJAN 2024 10:30 -0330 (NST)" := by decide

end Letter
end Mailroom
