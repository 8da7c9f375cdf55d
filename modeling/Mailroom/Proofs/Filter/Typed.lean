import Mathlib.Data.List.Basic
import Mailroom.Filter.Criteria
import Mailroom.Filter.Value
import Mailroom.Proofs.Outcome
import Mailroom.Proofs.Text.Ascii
import Mailroom.Proofs.Time.Spoken
import Mailroom.Proofs.Time.Summers

/-!
# Dates as they are typed

A timestamp is accepted if it is the typed form of a date and a time that exist, and the clock then
shows what was typed.  Of two instants that it fits the earlier one is meant.

* `Reading.typed`                   the form of timestamps;
* `readTimestamp?_eq_some_iff`      what is read of a text of this shape;
* `Reading.words`                   a reading in words;
* `parseTimestamp_keeps_reading`    what is accepted, and what it means.
-/

namespace Mailroom

open Text (twoDigits fourDigits decimal decimalInt padLeft asciiDigit? digitsValue)

/-- the form of timestamps, `YYYY-MM-DDTHH.MM.SS` -/
def Reading.typed (r : Reading) : Text :=
  fourDigits r.date.year.toNat ++ "-" ++ twoDigits r.date.month ++ "-" ++ twoDigits r.date.day ++ "T"
    ++ twoDigits r.hour ++ "." ++ twoDigits r.minute ++ "." ++ twoDigits r.second

/-- a reading in words, with the name of the time that is in force -/
def Reading.words (r : Reading) (period : Text) : Text :=
  Date.weekdayName r.date.toDays ++ " " ++ Date.monthName r.date.month ++ " " ++ twoDigits r.date.day ++ " "
    ++ r.clock ++ " " ++ period ++ " " ++ decimalInt r.date.year

namespace Filter

/-! ## the shape -/

section
variable {f : Char} {fs s : Text}

theorem hasShape_nil : hasShape [] s ↔ s = [] := by
  cases s <;> simp [hasShape]

theorem hasShape_digit : hasShape ('d' :: fs) s ↔ ∃ c r, s = c :: r ∧ Text.isDigit c ∧ hasShape fs r := by
  cases s with
  | nil => exact ⟨nofun, nofun⟩
  | cons c r =>
    rw [hasShape, Bool.and_eq_true]
    constructor
    · intro h
      exact ⟨c, r, rfl, h⟩
    · rintro ⟨_, _, ⟨⟩, h⟩
      exact h

theorem hasShape_mark (hf : f ≠ 'd') : hasShape (f :: fs) s ↔ ∃ r, s = f :: r ∧ hasShape fs r := by
  cases s with
  | nil =>
    have h : hasShape (f :: fs) [] = false := hasShape.eq_4 _ _ nofun nofun nofun
    rw [h]
    exact ⟨nofun, nofun⟩
  | cons c r =>
    rw [hasShape.eq_3 _ _ _ _ fun h => absurd h hf, Bool.and_eq_true, beq_iff_eq]
    constructor
    · rintro ⟨rfl, h⟩
      exact ⟨r, rfl, h⟩
    · rintro ⟨_, ⟨⟩, h⟩
      exact ⟨rfl, h⟩

theorem hasShape_append {gs t : Text} (h : hasShape fs s) (h' : hasShape gs t) :
    hasShape (fs ++ gs) (s ++ t) := by
  induction fs generalizing s with
  | nil =>
    cases hasShape_nil.1 h
    exact h'
  | cons f fs ih =>
    by_cases hf : f = 'd'
    · subst hf
      obtain ⟨c, r, rfl, hc, hr⟩ := hasShape_digit.1 h
      exact hasShape_digit.2 ⟨c, r ++ t, rfl, hc, ih hr⟩
    · obtain ⟨r, rfl, hr⟩ := (hasShape_mark hf).1 h
      exact (hasShape_mark hf).2 ⟨r ++ t, rfl, ih hr⟩

theorem hasShape_of_digits (h : ∀ c ∈ s, Text.isDigit c) : hasShape (List.replicate s.length 'd') s := by
  induction s with
  | nil => rfl
  | cons c r ih =>
    rw [List.forall_mem_cons] at h
    exact hasShape_digit.2 ⟨c, r, rfl, h.1, ih h.2⟩

theorem hasShape_padLeft {k n : Nat} (hk : 0 < k) (hn : n < 10 ^ k) :
    hasShape (List.replicate k 'd') (padLeft k '0' (decimal n)) := by
  have hdigit : ∀ c ∈ padLeft k '0' (decimal n), Text.isDigit c := by
    intro c hc
    obtain ⟨d, hd⟩ := Option.isSome_iff_exists.1 (Text.isSome_asciiDigit? (Text.isDigit_of_mem_padLeft hc))
    rw [Text.isDigit, Text.digit?_of_asciiDigit? hd]
    rfl
  have h := hasShape_of_digits hdigit
  rwa [Text.length_padLeft_decimal hk hn] at h

/-- a digit that is ASCII is one of the ten -/
theorem exists_asciiDigit? {c : Char} (h : Text.isDigit c) (hascii : Text.isAscii c) :
    ∃ d, asciiDigit? c = some d := by
  have hsome := Text.forall_ascii (p := fun c => Text.isDigit c = true → (asciiDigit? c).isSome = true)
    (by decide) (of_decide_eq_true hascii)
  exact Option.isSome_iff_exists.1 (hsome h)

/-- two digits in front of an ASCII text -/
theorem exists_two (h : hasShape ('d' :: 'd' :: fs) s ∧ s.all Text.isAscii) :
    ∃ a b x y r, s = a :: b :: r ∧ (asciiDigit? a = some x ∧ asciiDigit? b = some y) ∧
      hasShape fs r ∧ r.all Text.isAscii := by
  obtain ⟨h, hascii⟩ := h
  obtain ⟨a, _, rfl, ha, h⟩ := hasShape_digit.1 h
  obtain ⟨b, r, rfl, hb, h⟩ := hasShape_digit.1 h
  rw [List.all_cons, List.all_cons, Bool.and_eq_true, Bool.and_eq_true] at hascii
  obtain ⟨x, hx⟩ := exists_asciiDigit? ha hascii.1
  obtain ⟨y, hy⟩ := exists_asciiDigit? hb hascii.2.1
  exact ⟨a, b, x, y, r, rfl, ⟨hx, hy⟩, h, hascii.2.2⟩

/-- a mark in front of an ASCII text -/
theorem exists_mark (hf : f ≠ 'd') (h : hasShape (f :: fs) s ∧ s.all Text.isAscii) :
    ∃ r, s = f :: r ∧ hasShape fs r ∧ r.all Text.isAscii := by
  obtain ⟨h, hascii⟩ := h
  obtain ⟨r, rfl, hr⟩ := (hasShape_mark hf).1 h
  rw [List.all_cons, Bool.and_eq_true] at hascii
  exact ⟨r, rfl, hr, hascii.2⟩

end

/-! ## fields of two digits -/

section
variable {a b : Char} {x y n : Nat} (ha : asciiDigit? a = some x) (hb : asciiDigit? b = some y)
include ha hb

theorem twoDigits_eq_iff : twoDigits n = [a, b] ↔ n = 10 * x + y := by
  have hmap : [a, b].mapM asciiDigit? = some [x, y] := by simp [ha, hb]
  have h := Text.padLeft_decimal_eq_iff (n := n) hmap nofun
  simpa [digitsValue, twoDigits] using h

theorem monthDigits?_eq_some : monthDigits? a b = some n ↔ twoDigits n = [a, b] ∧ 1 ≤ n ∧ n ≤ 12 := by
  rw [twoDigits_eq_iff ha hb]
  unfold monthDigits?
  simp only [ha, hb, Option.bind_eq_bind, Option.bind_some]
  rw [Option.ite_none_right_eq_some, Option.some_inj]
  omega

theorem dayDigits?_eq_some : dayDigits? a b = some n ↔ twoDigits n = [a, b] ∧ 1 ≤ n ∧ n ≤ 31 := by
  have hy := (Text.asciiDigit?_eq_some hb).1
  rw [twoDigits_eq_iff ha hb]
  unfold dayDigits?
  simp only [ha, hb, Text.digit?_of_asciiDigit? hb, Option.bind_eq_bind, Option.bind_some, pure]
  by_cases hx : x = 1 ∨ x = 2
  · rw [if_pos hx, Option.some_inj]
    omega
  · rw [if_neg hx, Option.ite_none_right_eq_some, Option.some_inj]
    omega

theorem hourDigits?_eq_some : hourDigits? a b = some n ↔ twoDigits n = [a, b] ∧ n ≤ 23 := by
  have hy := (Text.asciiDigit?_eq_some hb).1
  rw [twoDigits_eq_iff ha hb]
  unfold hourDigits?
  simp only [ha, hb, Text.digit?_of_asciiDigit? hb, Option.bind_eq_bind, Option.bind_some, pure]
  by_cases hx : x ≤ 1
  · rw [if_pos hx, Option.some_inj]
    omega
  · rw [if_neg hx, Option.ite_none_right_eq_some, Option.some_inj]
    omega

theorem minuteDigits?_eq_some : clockDigits? 5 a b = some n ↔ twoDigits n = [a, b] ∧ n ≤ 59 := by
  have hy := (Text.asciiDigit?_eq_some hb).1
  rw [twoDigits_eq_iff ha hb]
  unfold clockDigits?
  simp only [ha, Text.digit?_of_asciiDigit? hb, Option.bind_eq_bind, Option.bind_some]
  rw [Option.ite_none_right_eq_some, Option.some_inj]
  omega

theorem secondDigits?_eq_some : secondDigits? a b = some n ↔ twoDigits n = [a, b] ∧ n ≤ 61 := by
  have hy := (Text.asciiDigit?_eq_some hb).1
  rw [twoDigits_eq_iff ha hb]
  unfold secondDigits?
  simp only [ha, hb, Text.digit?_of_asciiDigit? hb, Option.bind_eq_bind, Option.bind_some, pure]
  by_cases hx : x ≤ 5
  · rw [if_pos hx, Option.some_inj]
    omega
  · rw [if_neg hx, Option.ite_none_right_eq_some, Option.some_inj]
    omega

end

theorem exists_twoDigits {n : Nat} (hn : n < 100) : ∃ a b, twoDigits n = [a, b] :=
  List.length_eq_two.1 (Text.length_padLeft_decimal (by decide) hn)

theorem exists_fourDigits {n : Nat} (hn : n < 10000) : ∃ a b c d, fourDigits n = [a, b, c, d] := by
  have hlen : (fourDigits n).length = 4 := Text.length_padLeft_decimal (by decide) hn
  match fourDigits n, hlen with
  | [a, b, c, d], _ => exact ⟨a, b, c, d, rfl⟩

/-! ## timestamps -/

/-- in the typed form of a reading that exists, each field has its place -/
theorem typed_eq_iff {r : Reading} (hr : r.IsValid)
    {c1 c2 c3 c4 m1 m2 d1 d2 h1 h2 n1 n2 s1 s2 : Char} :
    r.typed = [c1, c2, c3, c4, '-', m1, m2, '-', d1, d2, 'T', h1, h2, '.', n1, n2, '.', s1, s2] ↔
      fourDigits r.date.year.toNat = [c1, c2, c3, c4] ∧ twoDigits r.date.month = [m1, m2] ∧
      twoDigits r.date.day = [d1, d2] ∧ twoDigits r.hour = [h1, h2] ∧
      twoDigits r.minute = [n1, n2] ∧ twoDigits r.second = [s1, s2] := by
  obtain ⟨hdate, hfirst, hlast, hhour, hminute, hsecond⟩ := hr
  have hday := Date.day_le_of_exists hdate
  obtain ⟨-, hmonth, -, -⟩ := hdate
  obtain ⟨_, _, _, _, ey⟩ := exists_fourDigits (n := r.date.year.toNat) (by omega)
  obtain ⟨_, _, em⟩ := exists_twoDigits (n := r.date.month) (by omega)
  obtain ⟨_, _, ed⟩ := exists_twoDigits (n := r.date.day) (by omega)
  obtain ⟨_, _, eh⟩ := exists_twoDigits (n := r.hour) (by omega)
  obtain ⟨_, _, en⟩ := exists_twoDigits (n := r.minute) (by omega)
  obtain ⟨_, _, es⟩ := exists_twoDigits (n := r.second) (by omega)
  unfold Reading.typed
  rw [ey, em, ed, eh, en, es]
  constructor
  · rintro ⟨⟩
    exact ⟨rfl, rfl, rfl, rfl, rfl, rfl⟩
  · rintro ⟨⟨⟩, ⟨⟩, ⟨⟩, ⟨⟩, ⟨⟩, ⟨⟩⟩
    rfl

/-- a text of the shape of timestamps is read as the reading whose typed form it is -/
theorem readTimestamp?_eq_some_iff {value : Text} (hascii : value.all Text.isAscii)
    (hshape : hasShape timestampShape value) {r : Reading} :
    readTimestamp? value = some r ↔ r.IsValid ∧ value = r.typed := by
  have hmarks : timestampShape = ['d', 'd', 'd', 'd', '-', 'd', 'd', '-', 'd', 'd', 'T', 'd', 'd', '.',
      'd', 'd', '.', 'd', 'd'] := by decide
  rw [hmarks] at hshape
  obtain ⟨c1, c2, y1, y2, _, rfl, ⟨hc1, hc2⟩, h⟩ := exists_two ⟨hshape, hascii⟩
  obtain ⟨c3, c4, y3, y4, _, rfl, ⟨hc3, hc4⟩, h⟩ := exists_two h
  obtain ⟨_, rfl, h⟩ := exists_mark (by decide) h
  obtain ⟨m1, m2, m, m', _, rfl, ⟨hm1, hm2⟩, h⟩ := exists_two h
  obtain ⟨_, rfl, h⟩ := exists_mark (by decide) h
  obtain ⟨d1, d2, d, d', _, rfl, ⟨hd1, hd2⟩, h⟩ := exists_two h
  obtain ⟨_, rfl, h⟩ := exists_mark (by decide) h
  obtain ⟨h1, h2, x, x', _, rfl, ⟨hh1, hh2⟩, h⟩ := exists_two h
  obtain ⟨_, rfl, h⟩ := exists_mark (by decide) h
  obtain ⟨n1, n2, n, n', _, rfl, ⟨hn1, hn2⟩, h⟩ := exists_two h
  obtain ⟨_, rfl, h⟩ := exists_mark (by decide) h
  obtain ⟨s1, s2, s, s', _, rfl, ⟨hs1, hs2⟩, h⟩ := exists_two h
  obtain rfl := hasShape_nil.1 h.1
  have hyear : [c1, c2, c3, c4].mapM asciiDigit? = some [y1, y2, y3, y4] := by
    simp [hc1, hc2, hc3, hc4]
  have hyear' : Text.digits? [c1, c2, c3, c4] = some [y1, y2, y3, y4] := by
    simp [Text.digits?, Text.digit?_of_asciiDigit? hc1, Text.digit?_of_asciiDigit? hc2,
      Text.digit?_of_asciiDigit? hc3, Text.digit?_of_asciiDigit? hc4]
  constructor
  · intro h
    obtain ⟨year, hy, h⟩ := Option.bind_eq_some_iff.1 h
    obtain ⟨month, hmonth, h⟩ := Option.bind_eq_some_iff.1 h
    obtain ⟨day, hday, h⟩ := Option.bind_eq_some_iff.1 h
    obtain ⟨hour, hhour, h⟩ := Option.bind_eq_some_iff.1 h
    obtain ⟨minute, hminute, h⟩ := Option.bind_eq_some_iff.1 h
    obtain ⟨second, hsecond, h⟩ := Option.bind_eq_some_iff.1 h
    rw [Option.ite_none_right_eq_some, Option.some_inj] at h
    obtain ⟨hvalid, rfl⟩ := h
    have ey : fourDigits (digitsValue year) = [c1, c2, c3, c4] := by
      cases hyear'.symm.trans hy
      exact (Text.padLeft_decimal_eq_iff hyear nofun).2 rfl
    exact ⟨hvalid, ((typed_eq_iff hvalid).2 ⟨ey, ((monthDigits?_eq_some hm1 hm2).1 hmonth).1,
      ((dayDigits?_eq_some hd1 hd2).1 hday).1, ((hourDigits?_eq_some hh1 hh2).1 hhour).1,
      ((minuteDigits?_eq_some hn1 hn2).1 hminute).1, ((secondDigits?_eq_some hs1 hs2).1 hsecond).1⟩).symm⟩
  · rintro ⟨hr, hv⟩
    obtain ⟨ey, em, ed, eh, en, es⟩ := (typed_eq_iff hr).1 hv.symm
    obtain ⟨hdate, hfirst, -, hhour, hminute, hsecond⟩ := id hr
    have hday := Date.day_le_of_exists hdate
    obtain ⟨hmonth, hmonth', hday', -⟩ := hdate
    have hy := (Text.padLeft_decimal_eq_iff hyear nofun).1 ey
    unfold readTimestamp?
    simp only [Option.bind_eq_bind, hyear', Option.bind_some,
      (monthDigits?_eq_some hm1 hm2).2 ⟨em, hmonth, hmonth'⟩,
      (dayDigits?_eq_some hd1 hd2).2 ⟨ed, hday', hday⟩,
      (hourDigits?_eq_some hh1 hh2).2 ⟨eh, by omega⟩,
      (minuteDigits?_eq_some hn1 hn2).2 ⟨en, by omega⟩,
      (secondDigits?_eq_some hs1 hs2).2 ⟨es, by omega⟩]
    rw [← hy, Int.toNat_of_nonneg (by omega), if_pos hr]

theorem hasShape_typed {r : Reading} (hr : r.IsValid) : hasShape timestampShape r.typed := by
  obtain ⟨hdate, hfirst, hlast, hhour, hminute, hsecond⟩ := hr
  have hday := Date.day_le_of_exists hdate
  obtain ⟨hmonth, hmonth', -, -⟩ := hdate
  have htwo : ∀ {n : Nat}, n < 100 → hasShape ['d', 'd'] (twoDigits n) :=
    fun hn => hasShape_padLeft (k := 2) (by decide) hn
  have hfour : hasShape ['d', 'd', 'd', 'd'] (fourDigits r.date.year.toNat) :=
    hasShape_padLeft (k := 4) (by decide) (by omega)
  have hdash : hasShape ['-'] ['-'] := by decide
  have hletter : hasShape ['T'] ['T'] := by decide
  have hdot : hasShape ['.'] ['.'] := by decide
  have hmarks : timestampShape = ['d', 'd', 'd', 'd'] ++ ['-'] ++ ['d', 'd'] ++ ['-'] ++ ['d', 'd']
      ++ ['T'] ++ ['d', 'd'] ++ ['.'] ++ ['d', 'd'] ++ ['.'] ++ ['d', 'd'] := by decide
  rw [hmarks]
  exact hasShape_append (hasShape_append (hasShape_append (hasShape_append (hasShape_append
    (hasShape_append (hasShape_append (hasShape_append (hasShape_append (hasShape_append hfour hdash)
    (htwo (by omega))) hdash) (htwo (by omega))) hletter) (htwo (by omega))) hdot) (htwo (by omega))) hdot)
    (htwo (by omega))

/-- a text that is no typed form of an existing reading is refused -/
theorem parseTimestamp_of_not_typed {z : Zone} {value : Text} (hascii : value.all Text.isAscii)
    (h : ∀ r : Reading, r.IsValid → value ≠ r.typed) :
    ∃ c ∈ [FilterCause.badDateShape, .badDate], parseTimestamp z value = .error (.filter ⟨c, value⟩) := by
  unfold parseTimestamp
  by_cases hshape : hasShape timestampShape value
  · rw [if_pos hshape]
    cases hr : readTimestamp? value with
    | none => exact ⟨.badDate, by simp, rfl⟩
    | some r =>
      obtain ⟨hvalid, hv⟩ := (readTimestamp?_eq_some_iff hascii hshape).1 hr
      exact absurd hv (h r hvalid)
  · rw [if_neg hshape]
    exact ⟨.badDateShape, by simp, rfl⟩

theorem parseTimestamp_typed {z : Zone} {r : Reading} (hascii : r.typed.all Text.isAscii)
    (hr : r.IsValid) : parseTimestamp z r.typed = orFault .clock (z.readLocal r.toSeconds 0 false) := by
  unfold parseTimestamp
  rw [if_pos (hasShape_typed hr), (readTimestamp?_eq_some_iff hascii (hasShape_typed hr)).2 ⟨hr, rfl⟩]

/-- **Typed dates.**  On clocks whose changes lie far enough apart, of the ASCII texts exactly the typed
forms of dates and times that exist are accepted, in all years but the first and the last.  If the
clock ever shows the time that was typed, the stamp is the first instant at which it does: its day is
the day a server is asked for, and its words are those of the typed date and time. -/
theorem parseTimestamp_keeps_reading {z : Zone} (hz : z.Orderly) {value : Text}
    (hascii : value.all Text.isAscii) :
    ((∀ r : Reading, r.IsValid → value ≠ r.typed) →
      ∃ c ∈ [FilterCause.badDateShape, .badDate], parseTimestamp z value = .error (.filter ⟨c, value⟩)) ∧
    ∀ r : Reading, r.IsValid → value = r.typed → 2 ≤ r.date.year → r.date.year ≤ 9998 →
      ∃ s, parseTimestamp z value = .ok s ∧
        ((∃ t, z.wallAt t = r.toSeconds) →
          z.wallAt s.instant = r.toSeconds ∧ (∀ t, z.wallAt t = r.toSeconds → s.instant ≤ t) ∧
          s.reading = r ∧ s.micros = 0 ∧ s.offset = z.offsetAt s.instant ∧
          Criteria.day z (.fixed s) = .ok r.date.short ∧
          z.spoken (.fixed s) = .ok (r.words (z.periodAt s.instant).name)) := by
  refine ⟨parseTimestamp_of_not_typed hascii, ?_⟩
  intro r hr hvalue hfirst hlast
  obtain ⟨hmargin, hmargin'⟩ := Reading.margin hr hfirst hlast
  have hday : (0 : Int) < secondsPerDay := by decide
  rw [hvalue] at hascii ⊢
  rw [parseTimestamp_typed hascii hr]
  by_cases hshown : ∃ t, z.wallAt t = r.toSeconds
  · obtain ⟨t, ht⟩ := hshown
    obtain ⟨u, hu, hfirst⟩ := Zone.exists_first ht
    have hread : z.readLocal r.toSeconds 0 false = .ok ⟨u, 0, z.offsetAt u⟩ := by
      refine Zone.readLocal_of_shown hz hu (fun _ => hfirst) ?_ (by omega) (by omega) 0
      exact nofun
    have hreading : (⟨u, 0, z.offsetAt u⟩ : Stamp).reading = r := by
      show Reading.ofSeconds (z.wallAt u) = r
      rw [hu, Reading.ofSeconds_toSeconds hr]
    have hlocal : z.localize (.fixed ⟨u, 0, z.offsetAt u⟩) = .ok ⟨u, 0, z.offsetAt u⟩ :=
      Zone.toLocal_readLocal hread
    refine ⟨_, orFault_eq_ok.2 hread, fun _ => ⟨hu, hfirst, hreading, rfl, rfl, ?_, ?_⟩⟩
    · unfold Criteria.day
      rw [hlocal]
      exact congrArg (fun q : Reading => Except.ok q.date.short) hreading
    · unfold Zone.spoken
      rw [hlocal]
      exact congrArg (fun q : Reading => Except.ok (q.words (z.periodAt u).name)) hreading
  · have hread := Zone.readLocal_of_margin hz.within
      (show firstSecond + 4 * secondsPerDay ≤ r.toSeconds by omega) (by omega) 0 false
    exact ⟨_, orFault_eq_ok.2 hread, fun h => absurd h hshown⟩

/-- in the hour that comes twice in autumn, the first time is meant -/
theorem parseTimestamp_keeps_reading_autumn :
    Zone.read? "CET-1CEST,M3.5.0,M10.5.0/3" = some Zone.centralEurope ∧
      Zone.centralEurope.Orderly ∧ ("2024-10-27T02.30.00" : Text).all Text.isAscii ∧
      Zone.centralEurope.wallAt 1729989000 = Reading.toSeconds ⟨⟨2024, 10, 27⟩, 2, 30, 0⟩ ∧
      Zone.centralEurope.wallAt 1729992600 = Reading.toSeconds ⟨⟨2024, 10, 27⟩, 2, 30, 0⟩ ∧
      ∃ s, parseTimestamp Zone.centralEurope "2024-10-27T02.30.00" = .ok s ∧ s.instant ≤ 1729989000 ∧
        s.reading = ⟨⟨2024, 10, 27⟩, 2, 30, 0⟩ ∧
        Criteria.day Zone.centralEurope (.fixed s) = .ok "27-Oct-2024" := by
  have hascii : ("2024-10-27T02.30.00" : Text).all Text.isAscii := by decide
  have hfirst : Zone.centralEurope.wallAt 1729989000 = Reading.toSeconds ⟨⟨2024, 10, 27⟩, 2, 30, 0⟩ := by
    decide
  have hsecond : Zone.centralEurope.wallAt 1729992600 = Reading.toSeconds ⟨⟨2024, 10, 27⟩, 2, 30, 0⟩ := by
    decide
  obtain ⟨s, hs, hshown⟩ := (parseTimestamp_keeps_reading Zone.orderly_centralEurope hascii).2
    ⟨⟨2024, 10, 27⟩, 2, 30, 0⟩ (by decide) (by decide) (by decide) (by decide)
  obtain ⟨-, hle, hreading, -, -, hday, -⟩ := hshown ⟨_, hfirst⟩
  exact ⟨Zone.read?_centralEurope, Zone.orderly_centralEurope, hascii, hfirst, hsecond, s, hs,
    hle _ hfirst, hreading, hday⟩

/-- On clocks with a summer of a second too little, the later instant is taken; so it is on clocks that
a change moves by more than a day; and a clock that is a day behind shows nothing at all. -/
theorem parseTimestamp_takes_later :
    (Zone.read? "HST10HDT,J100/2,J101/3:59:59" = some Zone.shortSummer ∧
      Zone.shortSummer.OffsetsWithinDay ∧ Zone.shortSummer.ChangesApart (secondsPerDay + 3599) ∧
      ∃ s, parseTimestamp Zone.shortSummer "2024-04-11T02.59.59" = .ok s ∧ 1712836799 < s.instant ∧
        Zone.shortSummer.wallAt 1712836799 = Zone.shortSummer.wallAt s.instant) ∧
    (Zone.read? "AAA12BBB-14,J100/2,J200/2" = some Zone.wideShift ∧
      Zone.wideShift.OffsetsWithinDay ∧ Zone.wideShift.ChangesApart (secondsPerDay + Zone.wideShift.shift) ∧
      ∃ s, parseTimestamp Zone.wideShift "2024-07-19T01.00.00" = .ok s ∧ 1721300400 < s.instant ∧
        Zone.wideShift.wallAt 1721300400 = Zone.wideShift.wallAt s.instant) ∧
    Zone.read? "XXX24" = some Zone.dayBehind ∧ (∀ n, Zone.dayBehind.ChangesApart n) ∧
      parseTimestamp Zone.dayBehind "2024-01-15T10.30.00" = .error (.clock (.offsetOutOfRange (-86400))) := by
  refine ⟨⟨Zone.read?_shortSummer, Zone.within_shortSummer, Zone.apart_shortSummer,
      ⟨1712840399, 0, -36000⟩, ?_⟩,
    ⟨Zone.read?_wideShift, Zone.within_wideShift, Zone.apart_wideShift, ⟨1721394000, 0, -43200⟩, ?_⟩,
    Zone.read?_dayBehind, Zone.apart_dayBehind, ?_⟩
  · decide
  · decide
  · decide

end Filter
end Mailroom
