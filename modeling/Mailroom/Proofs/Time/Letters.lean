import Mailroom.Proofs.Time.DateLines

/-!
# What dates of letters are read as

A date of the standard is read as the moment that it names.  It is shown in a form that is again one of
the standard, and is read back from it.

* `numbers?_text`        the numbers of a date;
* `Beyond`               the dates with a number that is beyond all clocks;
* `read_tooLarge_iff`    they, and no others, are found to be too large;
* `read_text`            what a date of the standard is read as;
* `read_letter`          it is read back from the form in which it is shown.
-/

namespace Mailroom

open Text (twoDigits fourDigits decimal padLeft asciiDigit? digitsValue asciiLower)

namespace Letter

/-! ## numbers -/

namespace DateLine

variable {d : DateLine}

theorem second_lt (d : DateLine) : d.second.elim 0 Fin.val < 100 := by
  cases d.second with
  | none => decide
  | some s => exact s.isLt

theorem fields?_text : fields? d.text =
    some (d.dayText, d.monthText, d.yearText, d.timeText, d.offsetText) := by
  have hsome : ¬(d.dayText.isEmpty ∨ d.monthText.isEmpty ∨ d.yearText.isEmpty) := by
    simp only [List.isEmpty_iff, dayText_ne_nil, monthText_ne_nil, yearText_ne_nil, or_self, not_false_eq_true]
  unfold fields?
  rw [dropWeekday_words]
  exact if_neg hsome

theorem dayAndMonth?_text : dayAndMonth? d.dayText d.monthText = some (d.dayText, d.month.val + 1) := by
  have hall : ∀ m : Fin 12, month? (asciiLower (Date.monthName (m + 1))) = some (m.val + 1) := by decide
  have hascii : ∀ c ∈ d.monthText, c.toNat < 128 :=
    fun c hc => Text.lt_of_isAsciiLetter (isAsciiLetter_of_mem_monthText hc)
  unfold dayAndMonth?
  rw [Text.lower_of_ascii hascii, d.isMonth, hall]

theorem dropComma_of_not_mem {s : Text} (h : ',' ∉ s) : dropComma s = s :=
  if_neg fun hlast => h (List.mem_of_getLast? hlast)

theorem yearTimeZone_text :
    yearTimeZone d.yearText d.timeText d.offsetText = some (d.yearText, d.timeText, d.offsetText) := by
  have hdigit : ∀ c ∈ d.yearText, c.isDigit = true := fun c hc => isDigit_of_mem_yearText hc
  have hcolon : ':' ∉ d.yearText := fun h => absurd (hdigit _ h) (by decide)
  have hcomma : ',' ∉ d.yearText := fun h => absurd (hdigit _ h) (by decide)
  have hfirst : d.yearText.head?.any Text.isDigit = true := by
    obtain ⟨c, r, hc⟩ := List.exists_cons_of_ne_nil (yearText_ne_nil (d := d))
    obtain ⟨n, hn⟩ := Option.isSome_iff_exists.1
      (Text.isSome_asciiDigit? (hdigit c (by rw [hc]; exact List.mem_cons_self)))
    rw [hc, List.head?_cons, Option.any_some, Text.isDigit, Text.digit?_of_asciiDigit? hn]
    rfl
  unfold yearTimeZone
  simp [hcolon, dropComma_of_not_mem hcomma, yearText_ne_nil, hfirst]

theorem clockParts?_text : clockParts? (dropComma d.timeText) =
    some (twoDigits d.hour, twoDigits d.minute, d.second.elim ['0'] fun s => twoDigits s) := by
  have hcomma : ',' ∉ d.timeText := fun h => (of_mem_timeText h).elim (by decide) (by decide)
  have hcolon : ∀ n, ':' ∉ twoDigits n := fun n h => absurd (Text.isDigit_of_mem_padLeft h) (by decide)
  rw [dropComma_of_not_mem hcomma]
  unfold clockParts? timeText secondText
  cases d.second with
  | none =>
    rw [List.append_nil, Text.splitOn_append_cons, Text.splitOn_of_not_mem (hcolon _),
      Text.splitOn_of_not_mem (hcolon _)]
    rfl
  | some s =>
    dsimp only
    rw [Text.splitOn_append_cons, Text.splitOn_append_cons, Text.splitOn_of_not_mem (hcolon _),
      Text.splitOn_of_not_mem (hcolon _), Text.splitOn_of_not_mem (hcolon _)]
    rfl

theorem integer?_padLeft {k n : Nat} (h : (padLeft k '0' (decimal n)).length ≤ 4300) :
    integer? (padLeft k '0' (decimal n)) = some (n : Int) := by
  unfold integer?
  rw [Text.readInteger_padLeft h]

theorem integer?_twoDigits (n : Fin 100) : integer? (twoDigits n) = some (n.val : Int) := by
  refine integer?_padLeft ?_
  rw [Text.length_padLeft_decimal (by decide) n.isLt]
  decide

theorem integer?_dayText : integer? (dropComma d.dayText) = some (d.day.val : Int) := by
  have hcomma : ',' ∉ d.dayText := fun h => absurd (isDigit_of_mem_dayText h) (by decide)
  have hlen : (decimal d.day).length ≤ 2 := Nat.toDigits_length 10 d.day 2 (by decide) d.day.isLt
  rw [dropComma_of_not_mem hcomma]
  unfold dayText
  split
  · exact integer?_twoDigits d.day
  · unfold integer?
    rw [Text.readInteger_decimal (hlen.trans (by decide))]

theorem twoDigits_eq (n : Fin 100) : twoDigits n = [(n.val / 10).digitChar, (n.val % 10).digitChar] := by
  revert n
  decide

theorem integer?_offsetText :
    integer? d.offsetText =
      some ((if d.west then -1 else 1 : Int) * (d.hourOff.val * 100 + d.minuteOff.val : Nat)) := by
  have hdigits : (twoDigits d.hourOff ++ twoDigits d.minuteOff).mapM asciiDigit? =
      some [d.hourOff.val / 10, d.hourOff.val % 10, d.minuteOff.val / 10, d.minuteOff.val % 10] := by
    rw [twoDigits_eq, twoDigits_eq]
    simp [Text.asciiDigit?_digitChar (show d.hourOff.val / 10 < 10 by omega),
      Text.asciiDigit?_digitChar (show d.hourOff.val % 10 < 10 by omega),
      Text.asciiDigit?_digitChar (show d.minuteOff.val / 10 < 10 by omega),
      Text.asciiDigit?_digitChar (show d.minuteOff.val % 10 < 10 by omega)]
  have hlen : (twoDigits d.hourOff ++ twoDigits d.minuteOff).length ≤ 4300 := by
    simp [twoDigits_eq]
  have hvalue : digitsValue [d.hourOff.val / 10, d.hourOff.val % 10, d.minuteOff.val / 10,
      d.minuteOff.val % 10] = d.hourOff.val * 100 + d.minuteOff.val := by
    unfold digitsValue
    simp only [List.foldl_cons, List.foldl_nil]
    omega
  unfold integer? offsetText
  rw [Text.readInteger_sign hdigits (by simp [twoDigits_eq]) hlen, hvalue]

theorem map_toUpper_offsetText : d.offsetText.map Char.toUpper = d.offsetText := by
  have hdigit : ∀ {c : Char}, c.isDigit = true → c.toUpper = c :=
    fun hc => Text.forall_digit (p := fun c => c.toUpper = c) (by decide) hc
  have hall : ∀ c ∈ d.offsetText, c.toUpper = c := by
    unfold offsetText
    rw [List.forall_mem_cons, List.forall_mem_append]
    refine ⟨?_, fun c hc => hdigit (Text.isDigit_of_mem_padLeft hc),
      fun c hc => hdigit (Text.isDigit_of_mem_padLeft hc)⟩
    cases d.west <;> decide
  exact (List.map_congr_left hall).trans (List.map_id' _)

/-- no zone with a name begins with a sign -/
theorem find?_namedZones : namedZones.find? (·.1 == d.offsetText) = none := by
  have hnames : ∀ p ∈ namedZones, p.1.head? ≠ some '-' ∧ p.1.head? ≠ some '+' := by decide
  rw [List.find?_eq_none]
  intro p hp h
  have hhead := congrArg List.head? (beq_iff_eq.1 h)
  unfold offsetText at hhead
  rw [List.head?_cons] at hhead
  split at hhead
  · exact (hnames p hp).1 hhead
  · exact (hnames p hp).2 hhead

/-- hours and minutes are taken apart again -/
theorem seconds_of_hoursMinutes {s : Int} (hs : s = 1 ∨ s = -1) (h : Nat) {m : Nat} (hm : m < 100) :
    (s * (h * 100 + m : Nat)).sign * (((s * (h * 100 + m : Nat)).natAbs / 100 * 3600
      + (s * (h * 100 + m : Nat)).natAbs % 100 * 60 : Nat) : Int) = s * (h * 3600 + m * 60 : Nat) := by
  have habs : (s * (h * 100 + m : Nat)).natAbs = h * 100 + m := by
    rcases hs with rfl | rfl <;> omega
  have hsplit : (h * 100 + m) / 100 * 3600 + (h * 100 + m) % 100 * 60 = h * 3600 + m * 60 := by omega
  rw [habs, hsplit]
  rcases Nat.eq_zero_or_pos (h * 100 + m) with hzero | hpos
  · obtain ⟨rfl, rfl⟩ : h = 0 ∧ m = 0 := by
      constructor <;> omega
    simp
  · have hsign : (s * (h * 100 + m : Nat)).sign = s := by
      rcases hs with rfl | rfl
      · exact Int.sign_eq_one_of_pos (by omega)
      · exact Int.sign_eq_neg_one_of_neg (by omega)
    rw [hsign]

/-- the offset is not known where it is written `-0000` -/
theorem offset?_text : offset? d.offsetText = if d.Known then some d.offset else none := by
  have hnumber := integer?_offsetText (d := d)
  have hknown : d.Known ↔ ¬(d.west = true ∧ d.hourOff.val = 0 ∧ d.minuteOff.val = 0) := Iff.rfl
  rw [if_congr hknown rfl rfl]
  unfold offset?
  dsimp only
  rw [map_toUpper_offsetText, find?_namedZones, hnumber]
  unfold offsetText offset
  dsimp only
  rw [List.head?_cons]
  cases d.west with
  | true =>
    have hzero : (-1 : Int) * (d.hourOff.val * 100 + d.minuteOff.val : Nat) = 0 ↔
        d.hourOff.val = 0 ∧ d.minuteOff.val = 0 := by omega
    have hseconds := seconds_of_hoursMinutes (.inr rfl) d.hourOff.val d.minuteOff.isLt
    simp only [ite_not, if_true, true_and, and_true]
    by_cases h : d.hourOff.val = 0 ∧ d.minuteOff.val = 0
    · rw [if_pos (hzero.2 h), if_pos h]
      rfl
    · rw [if_neg fun h' => h (hzero.1 h'), if_neg h]
      exact congrArg some hseconds
  | false =>
    have hseconds := seconds_of_hoursMinutes (.inl rfl) d.hourOff.val d.minuteOff.isLt
    simp only [ite_not, Bool.false_eq_true, false_and, if_false]
    rw [if_neg fun h => absurd h.2 (by decide)]
    exact congrArg some hseconds

/-- the numbers of a date, where the year has no more digits than are read -/
theorem numbers?_text (h : d.yearText.length ≤ 4300) : numbers? d.text =
    some (fullYear d.year, d.month.val + 1, (d.day.val : Int), (d.hour.val : Int), (d.minute.val : Int),
      ((d.second.elim 0 Fin.val : Nat) : Int), if d.Known then some d.offset else none) := by
  have hsecond : integer? (d.second.elim ['0'] fun s => twoDigits s) =
      some ((d.second.elim 0 Fin.val : Nat) : Int) := by
    cases d.second with
    | none => decide
    | some s => exact integer?_twoDigits s
  unfold numbers?
  simp only [fields?_text, dayAndMonth?_text, yearTimeZone_text, clockParts?_text, integer?_dayText,
    integer?_twoDigits, hsecond, offset?_text, Option.bind_eq_bind, Option.bind_some]
  rw [show integer? d.yearText = some (d.year : Int) from integer?_padLeft h]
  rfl

end DateLine

/-! ## moments -/

/-- a number that clocks can be asked to show -/
def Fits (n : Int) : Prop := -2147483648 ≤ n ∧ n ≤ 2147483647

/-- the offset or another number of a date is beyond all clocks; the other numbers are looked at if there is
no offset or it is one that clocks can have -/
def Beyond (s : Text) : Prop :=
  ∃ y mo d h mi sec off, numbers? s = some (y, mo, d, h, mi, sec, off) ∧
    ((∃ o ∈ off, 999999999 < (o / 86400).natAbs) ∨
      (∀ o ∈ off, WithinDay o) ∧ ∃ n ∈ [y, d, h, mi, sec], ¬Fits n)

theorem checkNumber_of_fits {n : Int} (h : Fits n) : checkNumber n = .ok () := by
  obtain ⟨h, h'⟩ := h
  unfold checkNumber
  rw [if_neg (by omega), if_neg (by omega), if_neg (by omega)]

theorem checkNumber_of_not_fits {n : Int} (h : ¬Fits n) : ∃ e, checkNumber n = .error (.tooLarge e) := by
  unfold Fits at h
  unfold checkNumber
  split
  · exact ⟨_, rfl⟩
  split
  · exact ⟨_, rfl⟩
  rw [if_pos (by omega)]
  exact ⟨_, rfl⟩

theorem forM_checkNumber {l : List Int} (h : ∀ n ∈ l, Fits n) : l.forM checkNumber = .ok () := by
  induction l with
  | nil => rfl
  | cons n l ih =>
    rw [List.forall_mem_cons] at h
    show (checkNumber n >>= fun _ => l.forM checkNumber) = _
    rw [checkNumber_of_fits h.1]
    exact ih h.2

theorem forM_checkNumber_of_not_fits {l : List Int} (h : ∃ n ∈ l, ¬Fits n) :
    ∃ e, l.forM checkNumber = .error (.tooLarge e) := by
  induction l with
  | nil => simp at h
  | cons n l ih =>
    show ∃ e, (checkNumber n >>= fun _ => l.forM checkNumber) = _
    by_cases hn : Fits n
    · rw [checkNumber_of_fits hn]
      refine ih ?_
      simpa [hn] using h
    · obtain ⟨e, he⟩ := checkNumber_of_not_fits hn
      rw [he]
      exact ⟨e, rfl⟩

theorem checkOffset_of_withinDay {o : Int} (h : WithinDay o) : checkOffset o = .ok () := by
  unfold WithinDay secondsPerDay at h
  unfold checkOffset
  dsimp only
  rw [if_neg (by omega), if_neg (by omega), if_neg (by omega)]

theorem checkOffset_of_not_withinDay {o : Int} (h : ¬WithinDay o) (hdays : (o / 86400).natAbs ≤ 999999999) :
    checkOffset o = .error .malformed := by
  unfold WithinDay secondsPerDay at h
  unfold checkOffset
  dsimp only
  rw [if_neg (by omega), if_neg (by omega), if_pos (by omega)]

theorem checkOffset_of_many_days {o : Int} (h : 999999999 < (o / 86400).natAbs) :
    ∃ e, checkOffset o = .error (.tooLarge e) := by
  unfold checkOffset
  dsimp only
  split <;> exact ⟨_, rfl⟩

/-- two checks, and what follows them without finding a number too large -/
theorem checks_tooLarge_iff {off : Option Int} {numbers : List Int} {rest : Except LetterError Moment}
    (hrest : ∀ e, rest ≠ .error (.tooLarge e)) :
    (∃ e, (off.elim (.ok ()) checkOffset >>= fun _ => numbers.forM checkNumber >>= fun _ => rest)
        = .error (.tooLarge e)) ↔
      (∃ o ∈ off, 999999999 < (o / 86400).natAbs) ∨ (∀ o ∈ off, WithinDay o) ∧ ∃ n ∈ numbers, ¬Fits n := by
  have hbehind : (∃ e, (numbers.forM checkNumber >>= fun _ => rest) = .error (.tooLarge e)) ↔
      ∃ n ∈ numbers, ¬Fits n := by
    by_cases hfit : ∃ n ∈ numbers, ¬Fits n
    · obtain ⟨e, he⟩ := forM_checkNumber_of_not_fits hfit
      exact iff_of_true ⟨e, by rw [he]; rfl⟩ hfit
    · have hall : ∀ n ∈ numbers, Fits n := fun n hn => by_contra fun h => hfit ⟨n, hn, h⟩
      rw [forM_checkNumber hall]
      exact iff_of_false (fun ⟨e, he⟩ => hrest e he) hfit
  cases off with
  | none => exact hbehind.trans (by simp)
  | some o =>
    simp only [Option.elim_some, Option.mem_some_iff, exists_eq_left', forall_eq']
    by_cases hday : WithinDay o
    · have hfew : ¬999999999 < (o / 86400).natAbs := by
        unfold WithinDay secondsPerDay at hday
        omega
      rw [checkOffset_of_withinDay hday]
      exact hbehind.trans (by simp [hday, hfew])
    · simp only [hday, false_and, or_false]
      by_cases hdays : 999999999 < (o / 86400).natAbs
      · obtain ⟨e, he⟩ := checkOffset_of_many_days hdays
        exact iff_of_true ⟨e, by rw [he]; rfl⟩ hdays
      · rw [checkOffset_of_not_withinDay hday (by omega)]
        exact iff_of_false nofun hdays

/-- a date is too large for clocks exactly if one of its numbers is beyond all of them -/
theorem read_tooLarge_iff {s : Text} : (∃ e, read s = .error (.tooLarge e)) ↔ Beyond s := by
  unfold read Beyond
  cases numbers? s with
  | none => exact iff_of_false nofun nofun
  | some p =>
    obtain ⟨y, mo, d, h, mi, sec, off⟩ := p
    refine (checks_tooLarge_iff fun e => ?_).trans ?_
    · dsimp only
      split <;> split <;> nofun
    · constructor
      · exact fun hchecks => ⟨y, mo, d, h, mi, sec, off, rfl, hchecks⟩
      · rintro ⟨_, _, _, _, _, _, _, ⟨⟩, hchecks⟩
        exact hchecks

/-- a date of the standard form is read as the moment it names -/
theorem read_text {d : DateLine} (hd : d.Regular) : read d.text = .ok d.moment := by
  obtain ⟨hvalid, hyear, hwidth, hday⟩ := hd
  have hlast : (d.year : Int) ≤ 9999 := hvalid.2.2.1
  have hlen : d.yearText.length ≤ 4300 := by
    have hpow : 10 ^ 4 ≤ 10 ^ d.width := Nat.pow_le_pow_right (by decide) d.four_le
    have hlength : d.yearText.length = d.width :=
      Text.length_padLeft_decimal (Nat.lt_of_lt_of_le (by decide) d.four_le) (by omega)
    omega
  have hfull : fullYear d.year = d.year := if_neg (by omega)
  have hchecks : [(d.year : Int), (d.day.val : Int), (d.hour.val : Int), (d.minute.val : Int),
      ((d.second.elim 0 Fin.val : Nat) : Int)].forM checkNumber = .ok () := by
    have hsecond := d.second_lt
    refine forM_checkNumber ?_
    simp only [List.forall_mem_cons]
    unfold Fits
    exact ⟨by omega, by omega, by omega, by omega, by omega, nofun⟩
  have hexists : ¬((d.day.val : Int) < 0 ∨ (d.hour.val : Int) < 0 ∨ (d.minute.val : Int) < 0 ∨
      ((d.second.elim 0 Fin.val : Nat) : Int) < 0 ∨ ¬d.reading.IsValid) := by
    simp [hvalid]
  unfold read DateLine.moment
  rw [DateLine.numbers?_text hlen, hfull]
  dsimp only
  by_cases hknown : d.Known
  · rw [if_pos hknown, if_pos hknown, Option.elim_some, checkOffset_of_withinDay hday, hchecks]
    exact if_neg hexists
  · rw [if_neg hknown, if_neg hknown, Option.elim_none, hchecks]
    exact if_neg hexists

/-! ## the form that is shown -/

theorem asciiLower_weekdayName (n : Int) :
    asciiLower (Date.weekdayName n) ∈ Date.weekdayNames.map asciiLower := by
  have hall : ∀ i : Fin 7, asciiLower (Date.weekdayNames.getD i []) ∈ Date.weekdayNames.map asciiLower := by
    decide
  have hlt : Date.weekday n < 7 := by
    unfold Date.weekday
    omega
  exact hall ⟨Date.weekday n, hlt⟩

namespace DateLine

variable {d : DateLine}

/-- a date in the form in which dates are shown -/
def shown (d : DateLine) (hday : WithinDay d.offset) : DateLine :=
  { plain d.day d.month d.year d.hour d.minute (some ⟨d.second.elim 0 Fin.val, d.second_lt⟩) d.west
      ⟨d.offset.natAbs / 3600, by unfold WithinDay secondsPerDay at hday; omega⟩
      ⟨d.offset.natAbs / 60 % 60, by omega⟩ with
    weekday := some ⟨Date.weekdayName d.reading.date.toDays, asciiLower_weekdayName _, Gap.single.text,
      Gap.single.blank⟩ }

theorem offset_mod : d.offset % 60 = 0 := by
  unfold offset
  split <;> omega

theorem offset_of_west (h : d.west = true) : d.offset = -(d.hourOff * 3600 + d.minuteOff * 60 : Nat) := by
  unfold offset
  rw [if_pos h, neg_one_mul]

theorem offset_of_east (h : d.west = false) : d.offset = (d.hourOff * 3600 + d.minuteOff * 60 : Nat) := by
  unfold offset
  rw [if_neg (by simp [h]), one_mul]

theorem offset_lt_zero_iff : d.offset < 0 ↔ d.west = true ∧ d.Known := by
  unfold Known
  cases h : d.west with
  | true =>
    rw [offset_of_west h]
    simp
    omega
  | false =>
    rw [offset_of_east h]
    simp
    omega

theorem offset_of_unknown (h : ¬d.Known) : d.offset = 0 := by
  obtain ⟨hwest, hhour, hminute⟩ := not_not.1 h
  rw [offset_of_west hwest, hhour, hminute]
  rfl

section
variable (hday : WithinDay d.offset)

theorem offset_shown : (d.shown hday).offset = d.offset := by
  have hmod := offset_mod (d := d)
  have hwest : (d.shown hday).west = d.west := rfl
  cases h : d.west with
  | true =>
    have hneg := offset_of_west h
    rw [offset_of_west (hwest.trans h)]
    dsimp only [shown, plain]
    omega
  | false =>
    have hpos := offset_of_east h
    rw [offset_of_east (hwest.trans h)]
    dsimp only [shown, plain]
    omega

theorem known_shown : (d.shown hday).Known ↔ d.Known := by
  have hmod := offset_mod (d := d)
  have hsame : (d.offset.natAbs / 3600 = 0 ∧ d.offset.natAbs / 60 % 60 = 0) ↔
      d.hourOff.val = 0 ∧ d.minuteOff.val = 0 := by
    cases h : d.west with
    | true =>
      have hneg := offset_of_west h
      omega
    | false =>
      have hpos := offset_of_east h
      omega
  exact not_congr (and_congr Iff.rfl hsame)

theorem moment_shown : (d.shown hday).moment = d.moment := by
  unfold moment instant
  rw [offset_shown, if_congr (known_shown hday) rfl rfl]
  rfl

end

theorem regular_shown (hd : d.Regular) : (d.shown hd.offset).Regular :=
  ⟨hd.valid, hd.year, show (4 : Nat) ≤ 4300 by decide, by rw [offset_shown]; exact hd.offset⟩

/-- the text of an offset without seconds -/
theorem plainOffset_eq {o : Int} (h : o % 60 = 0) : plainOffset o =
    (if o < 0 then '-' else '+') :: (twoDigits (o.natAbs / 3600) ++ twoDigits (o.natAbs / 60 % 60)) := by
  have hseconds : o.natAbs % 60 = 0 := by omega
  unfold plainOffset
  dsimp only
  rw [if_pos hseconds, List.append_nil]
  by_cases hneg : o < 0 <;> simp [hneg]

theorem offsetText_shown (hday : WithinDay d.offset) :
    (d.shown hday).offsetText = if d.Known then plainOffset d.offset else "-0000" := by
  have hneg := offset_lt_zero_iff (d := d)
  unfold offsetText
  by_cases hknown : d.Known
  · rw [if_pos hknown, plainOffset_eq offset_mod]
    simp only [hknown, and_true] at hneg
    simp only [hneg]
    rfl
  · have hsign : (d.shown hday).west = true := (not_not.1 hknown).1
    rw [if_neg hknown, if_pos hsign]
    dsimp only [shown, plain]
    rw [offset_of_unknown hknown]
    decide

theorem text_shown (hd : d.Regular) : (d.shown hd.offset).text = d.moment.letter := by
  have hletter : d.moment.letter = d.reading.letter (if d.Known then plainOffset d.offset else "-0000") := by
    unfold moment
    by_cases hknown : d.Known
    · rw [if_pos hknown, if_pos hknown]
      show (Reading.ofSeconds (d.instant + d.offset)).letter _ = _
      rw [instant, Int.sub_add_cancel, Reading.ofSeconds_toSeconds hd.valid]
    · rw [if_neg hknown, if_neg hknown]
      show (Reading.ofSeconds d.reading.toSeconds).letter _ = _
      rw [Reading.ofSeconds_toSeconds hd.valid]
  rw [hletter, ← offsetText_shown hd.offset]
  unfold text Reading.letter Reading.clock timeText
  simp [shown, plain, weekdayText, dayText, yearText, secondText, reading, Gap.single, fourDigits]

end DateLine

/-- a date is read back from the form in which it is shown -/
theorem read_letter {d : DateLine} (hd : d.Regular) : read d.moment.letter = .ok d.moment := by
  have hread := read_text (DateLine.regular_shown hd)
  rwa [DateLine.text_shown hd, DateLine.moment_shown hd.offset] at hread

end Letter
end Mailroom
