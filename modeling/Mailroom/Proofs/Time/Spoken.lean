import Mailroom.Proofs.Text.Decimal
import Mailroom.Proofs.Time.Clock
import Mailroom.Time.Format

/-!
# Dates in words

The words of a moment tell its day, whatever the zone calls the time that is in force: month and day
are the second and the third word, and the year is the last one.

* `splitOn_spoken`         the words of a moment;
* `day_eq_of_spoken_eq`    moments with the same words lie on the same day;
* `Zone.Plain`             a zone whose names hold no quotes, as all that rule texts describe;
* `not_mem_spoken`         in such a zone the words of a moment hold none.
-/

namespace Mailroom

namespace Date

section
variable {c : Char} (hc : Text.isAsciiLetter c = false)
include hc

/-- names of months and days of the week are words of letters -/
theorem not_mem_name {names : List Text} (hnames : names.all (·.all Text.isAsciiLetter) = true)
    (i : Nat) : c ∉ names.getD i [] := by
  rw [List.getD_eq_getElem?_getD]
  cases h : names[i]? with
  | none => exact List.not_mem_nil
  | some s =>
    intro hmem
    have hletters := List.all_eq_true.1 hnames s (List.mem_of_getElem? h)
    rw [List.all_eq_true.1 hletters c hmem] at hc
    cases hc

theorem not_mem_monthName (m : Nat) : c ∉ monthName m := not_mem_name hc (by decide) _

theorem not_mem_weekdayName (days : Int) : c ∉ weekdayName days := not_mem_name hc (by decide) _

end

theorem monthName_inj {m n : Nat} (hm : 1 ≤ m ∧ m ≤ 12) (hn : 1 ≤ n ∧ n ≤ 12)
    (h : monthName m = monthName n) : m = n := by
  have hall : ∀ i j : Fin 12, monthName (i.val + 1) = monthName (j.val + 1) → i = j := by decide
  have hi := hall ⟨m - 1, by omega⟩ ⟨n - 1, by omega⟩
  rw [show m - 1 + 1 = m by omega, show n - 1 + 1 = n by omega] at hi
  have hval := congrArg Fin.val (hi h)
  dsimp only at hval
  omega

theorem day_le_of_exists {d : Date} (h : d.Exists) : d.day ≤ 31 := by
  have hall : ∀ leap, ∀ m : Fin 13, monthLength leap m ≤ 31 := by decide
  obtain ⟨-, hmonth, -, hday⟩ := h
  exact Nat.le_trans hday (hall (isLeap d.year) ⟨d.month, by omega⟩)

end Date

namespace Text

theorem not_mem_twoDigits {c : Char} (hc : c.isDigit = false) (n : Nat) : c ∉ twoDigits n := by
  intro h
  rw [isDigit_of_mem_padLeft h] at hc
  cases hc

theorem twoDigits_inj {m n : Nat} (hm : m ≤ 31) (hn : n ≤ 31) (h : twoDigits m = twoDigits n) :
    m = n := by
  have hall : ∀ i : Fin 32, natural? (twoDigits i.val) = some i.val := by decide
  have hm' := hall ⟨m, by omega⟩
  have hn' := hall ⟨n, by omega⟩
  dsimp only at hm' hn'
  rw [h, hn'] at hm'
  exact (Option.some.inj hm').symm

theorem decimal_inj {m n : Nat} (h : decimal m = decimal n) : m = n := by
  have hm := natural?_decimal m
  rw [h, natural?_decimal] at hm
  exact (Option.some.inj hm).symm

theorem not_mem_decimalInt {c : Char} (hc : c.isDigit = false ∧ c ≠ '-') (n : Int) :
    c ∉ decimalInt n := by
  have hdecimal : ∀ k : Nat, c ∉ decimal k := by
    intro k hk
    rw [isDigit_of_mem_decimal hk] at hc
    cases hc.1
  cases n with
  | ofNat n => exact hdecimal n
  | negSucc n =>
    intro h
    rcases List.mem_cons.1 h with h | h
    · exact hc.2 h
    · exact hdecimal (n + 1) h

theorem decimalInt_inj {m n : Int} (h : decimalInt m = decimalInt n) : m = n := by
  have hminus : ∀ k : Nat, '-' ∉ decimal k := by
    intro k hk
    exact absurd (isDigit_of_mem_decimal hk) (by decide)
  cases m with
  | ofNat m =>
    cases n with
    | ofNat n => rw [decimal_inj h]
    | negSucc n =>
      have hm := hminus m
      rw [show decimal m = '-' :: decimal (n + 1) from h] at hm
      exact absurd List.mem_cons_self hm
  | negSucc m =>
    cases n with
    | ofNat n =>
      have hn := hminus n
      rw [show decimal n = '-' :: decimal (m + 1) from h.symm] at hn
      exact absurd List.mem_cons_self hn
    | negSucc n =>
      have hmn := decimal_inj (List.cons.inj h).2
      rw [Nat.succ.inj hmn]

end Text

theorem Reading.not_mem_clock {c : Char} (hc : c.isDigit = false ∧ c ≠ ':') (r : Reading) :
    c ∉ r.clock := by
  have htwo := Text.not_mem_twoDigits hc.1
  unfold clock
  simp [htwo, hc.2]

namespace Zone

variable {z : Zone}

/-- the words of a moment: month and day stand behind the day of the week, the year at the end -/
theorem splitOn_spoken {m : Moment} {s : Stamp} (h : z.localize m = .ok s) :
    ∃ t name, z.spoken m = .ok t ∧ Text.splitOn ' ' t
      = Date.weekdayName s.reading.date.toDays :: Date.monthName s.reading.date.month
        :: Text.twoDigits s.reading.date.day :: s.reading.clock :: Text.splitOn ' ' name
        ++ Text.splitOn ' ' (Text.decimalInt s.reading.date.year) := by
  let d := s.reading.date
  let name := (z.periodAt s.instant).name
  let t := Date.weekdayName d.toDays ++ " " ++ Date.monthName d.month ++ " "
    ++ Text.twoDigits d.day ++ " " ++ s.reading.clock ++ " " ++ name ++ " " ++ Text.decimalInt d.year
  have ht : z.spoken m = .ok t := by
    unfold spoken
    rw [h]
    rfl
  have hline : ∀ a b c k n y : Text,
      a ++ " " ++ b ++ " " ++ c ++ " " ++ k ++ " " ++ n ++ " " ++ y
        = a ++ ' ' :: (b ++ ' ' :: (c ++ ' ' :: (k ++ ' ' :: (n ++ ' ' :: y)))) := by
    intro a b c k n y
    simp
  have hweekday := Text.splitOn_of_not_mem (Date.not_mem_weekdayName (c := ' ') rfl d.toDays)
  have hmonth := Text.splitOn_of_not_mem (Date.not_mem_monthName (c := ' ') rfl d.month)
  have hday := Text.splitOn_of_not_mem (Text.not_mem_twoDigits (c := ' ') rfl d.day)
  have hclock := Text.splitOn_of_not_mem (s.reading.not_mem_clock (c := ' ') (by decide))
  refine ⟨t, name, ht, ?_⟩
  show Text.splitOn ' ' (_ ++ _) = _
  rw [hline, Text.splitOn_append_cons, Text.splitOn_append_cons, Text.splitOn_append_cons,
    Text.splitOn_append_cons, Text.splitOn_append_cons, hweekday, hmonth, hday, hclock]
  rfl

/-- moments with the same words lie on the same day -/
theorem day_eq_of_spoken_eq {m m' : Moment} {s s' : Stamp} (h : z.localize m = .ok s)
    (h' : z.localize m' = .ok s') (e : z.spoken m = z.spoken m') : s.day = s'.day := by
  obtain ⟨t, name, ht, hsplit⟩ := splitOn_spoken h
  obtain ⟨t', name', ht', hsplit'⟩ := splitOn_spoken h'
  obtain ⟨hexists, hyear, -, hday⟩ := reading_localize h
  obtain ⟨hexists', hyear', -, hday'⟩ := reading_localize h'
  have htext : t = t' := by
    rw [ht, ht'] at e
    exact Except.ok.inj e
  rw [htext, hsplit'] at hsplit
  have hmonth : s.reading.date.month = s'.reading.date.month := by
    refine Date.monthName_inj ⟨hexists.1, hexists.2.1⟩ ⟨hexists'.1, hexists'.2.1⟩ ?_
    exact (List.cons.inj (List.cons.inj hsplit).2).1.symm
  have hnumber : s.reading.date.day = s'.reading.date.day := by
    refine Text.twoDigits_inj (Date.day_le_of_exists hexists) (Date.day_le_of_exists hexists') ?_
    exact (List.cons.inj (List.cons.inj (List.cons.inj hsplit).2).2).1.symm
  have hlast : s.reading.date.year = s'.reading.date.year := by
    refine Text.decimalInt_inj ?_
    have hword : ∀ y : Int, Text.splitOn ' ' (Text.decimalInt y) = [Text.decimalInt y] :=
      fun y => Text.splitOn_of_not_mem (Text.not_mem_decimalInt (by decide) y)
    have hend := congrArg List.getLast? hsplit
    rw [hword, hword, List.getLast?_concat, List.getLast?_concat] at hend
    exact (Option.some.inj hend).symm
  have hdate : s.reading.date = s'.reading.date := by
    rw [show s.reading.date = ⟨s.reading.date.year, s.reading.date.month, s.reading.date.day⟩ from rfl,
      hlast, hmonth, hnumber]
  rw [← hday, ← hday', hdate]

/-- a zone whose names hold no quotes -/
structure Plain (z : Zone) : Prop where
  standard : '"' ∉ z.standard.name
  summer : ∀ s, z.summer = some s → '"' ∉ s.period.name

theorem not_mem_takeWhile {p : Char → Bool} {c : Char} (hc : p c = false) (s : Text) :
    c ∉ s.takeWhile p := by
  intro h
  have hall := List.all_eq_true.1 (List.all_takeWhile (l := s)) c h
  rw [hc] at hall
  cases hall

theorem not_mem_of_takeName? {s name rest : Text} (h : takeName? s = some (name, rest)) :
    '"' ∉ name := by
  unfold takeName? at h
  split at h
  · dsimp only at h
    split at h
    · split at h <;> cases h
      exact not_mem_takeWhile rfl _
    · cases h
  · dsimp only at h
    split at h <;> cases h
    exact not_mem_takeWhile rfl _

/-- the names of rule texts consist of letters, digits and signs -/
theorem plain_of_read? {s : Text} {z : Zone} (h : read? s = some z) : z.Plain := by
  obtain ⟨⟨name, r⟩, hname, h⟩ := Option.bind_eq_some_iff.1 h
  obtain ⟨⟨offset, r'⟩, -, h⟩ := Option.bind_eq_some_iff.1 h
  have hstandard := not_mem_of_takeName? hname
  cases r' with
  | nil =>
    cases h
    exact ⟨hstandard, fun _ hs => nomatch hs⟩
  | cons c r' =>
    obtain ⟨⟨summerName, r''⟩, hsummer, h⟩ := Option.bind_eq_some_iff.1 h
    obtain ⟨⟨start, r₃⟩, -, h⟩ := Option.bind_eq_some_iff.1 h
    obtain ⟨⟨stop, r₄⟩, -, h⟩ := Option.bind_eq_some_iff.1 h
    cases h
    refine ⟨hstandard, ?_⟩
    rintro s ⟨⟩
    exact not_mem_of_takeName? hsummer

theorem Plain.name (hz : z.Plain) (instant : Int) : '"' ∉ (z.periodAt instant).name := by
  unfold periodAt
  cases h : z.summer with
  | none => exact hz.standard
  | some s =>
    dsimp only
    by_cases hs : z.isSummer s instant = true
    · rw [if_pos hs]
      exact hz.summer s h
    · rw [if_neg hs]
      exact hz.standard

theorem not_mem_spoken (hz : z.Plain) {m : Moment} {t : Text} (h : z.spoken m = .ok t) : '"' ∉ t := by
  obtain ⟨s, -, h⟩ := bind_eq_ok.1 h
  cases h
  have hweekday := Date.not_mem_weekdayName (c := '"') rfl s.reading.date.toDays
  have hmonth := Date.not_mem_monthName (c := '"') rfl s.reading.date.month
  have hday := Text.not_mem_twoDigits (c := '"') rfl s.reading.date.day
  have hclock := s.reading.not_mem_clock (c := '"') (by decide)
  have hyear := Text.not_mem_decimalInt (c := '"') (by decide) s.reading.date.year
  have hname := hz.name s.instant
  simp [hweekday, hmonth, hday, hclock, hyear, hname]

end Zone
end Mailroom
