import Mailroom.Imap.Fetch
import Mailroom.Proofs.Outcome
import Mailroom.Proofs.Time.Letters
import Mailroom.Proofs.Time.Summers

/-!
# When messages were sent

The date of a header is read, and what it is shown as is read once more; the moment found is read from the
local clock.  A text that is no date is passed over, and so is a moment that the local clock cannot show.
But a number that is beyond all clocks stops the program, and so does a moment on the way to which the years
of clocks are left.

* `shownDate`         what the date of a header is shown as;
* `readShown`         what is made of it on the local clock;
* `Fetched.date?`     the date of a header as it was sent;
* `sent_fails_iff`    the messages that stop the program;
* `sent_of_regular`   the instant that is made of a date in the standard form.
-/

namespace Mailroom

open Letter (DateLine Beyond)

/-! ## the date of a header -/

/-- the text of a date as it is shown; a text that is no date is shown as it is -/
def shownDate (value : Text) : Text :=
  match Letter.read value with
  | .ok m => m.letter
  | .error _ => Text.settle value

theorem ofDate_of_tooLarge {value : Text} {e : Overflow} (h : Letter.read value = .error (.tooLarge e)) :
    Header.Field.ofDate value = .error (@Fault.hugeNumber e) := by
  have hempty : value.isEmpty = false := by
    cases value with
    | nil => cases h
    | cons c r => rfl
  unfold Header.Field.ofDate
  rw [hempty, h]
  rfl

theorem ofDate_of_not_tooLarge {value : Text} (h : ∀ e, Letter.read value ≠ .error (.tooLarge e)) :
    ∃ t, Header.Field.ofDate value = .ok ⟨t, shownDate value⟩ := by
  unfold Header.Field.ofDate shownDate
  cases value with
  | nil => exact ⟨_, rfl⟩
  | cons c r =>
    cases hread : Letter.read (c :: r) with
    | ok m => exact ⟨_, rfl⟩
    | error e =>
      cases e with
      | malformed => exact ⟨_, rfl⟩
      | tooLarge e => exact absurd hread (h e)

namespace MessageHeader

theorem kind_of_hasName {g : RawField} (h : hasName "Date" g = true) : Header.Kind.ofName g.name = .date := by
  unfold Header.Kind.ofName
  rw [beq_iff_eq.1 h]
  rfl

theorem field?_of_date {h : MessageHeader} {g : RawField} (hg : h.fields.find? (hasName "Date") = some g) :
    h.field? "Date" = do return some (← Header.Field.ofDate g.value).shown := by
  unfold field? read
  rw [hg]
  dsimp only
  rw [kind_of_hasName (List.find?_some hg)]
  rfl

end MessageHeader

namespace Fetched

variable {zone : Zone} {f : Fetched} {v : Text}

/-- the first date of the header as it was sent -/
def date? (f : Fetched) : Option Text :=
  (f.message.header.fields.find? (MessageHeader.hasName "Date")).map RawField.value

/-- what is made of a shown date on the local clock -/
def readShown (zone : Zone) (t : Text) : Except Fault (Option Stamp) :=
  match Letter.read t with
  | .error .malformed => .ok none
  | .error (.tooLarge e) => .error (@Fault.hugeNumber e)
  | .ok m =>
    match zone.localize m with
    | .ok s => .ok (some s)
    | .error .dateOutOfRange => .error (.clock .dateOutOfRange)
    | .error _ => .ok none

theorem sent_of_no_date (h : f.date? = none) : f.sent zone = .ok none := by
  have hfield : f.message.header.field? "Date" = .ok none := by
    unfold MessageHeader.field?
    rw [Option.map_eq_none_iff.1 h]
  unfold sent
  rw [hfield]
  rfl

section
variable (h : f.date? = some v)
include h

theorem sent_of_tooLarge {e : Overflow} (hv : Letter.read v = .error (.tooLarge e)) :
    f.sent zone = .error (@Fault.hugeNumber e) := by
  obtain ⟨g, hg, rfl⟩ := Option.map_eq_some_iff.1 h
  unfold sent
  rw [MessageHeader.field?_of_date hg, ofDate_of_tooLarge hv]
  rfl

theorem sent_of_date (hv : ∀ e, Letter.read v ≠ .error (.tooLarge e)) :
    f.sent zone = readShown zone (shownDate v) := by
  obtain ⟨g, hg, rfl⟩ := Option.map_eq_some_iff.1 h
  obtain ⟨t, ht⟩ := ofDate_of_not_tooLarge hv
  have hfield : f.message.header.field? "Date" = .ok (some (shownDate g.value)) := by
    rw [MessageHeader.field?_of_date hg, ht]
    rfl
  unfold sent readShown
  rw [hfield]
  cases shownDate g.value with
  | nil => rfl
  | cons c r => rfl

end

theorem readShown_eq_error {t : Text} : (∃ x, readShown zone t = .error x) ↔
    Beyond t ∨ ∃ m, Letter.read t = .ok m ∧ zone.Leaves m := by
  unfold readShown
  rw [← Letter.read_tooLarge_iff]
  cases Letter.read t with
  | error e => cases e <;> simp
  | ok m =>
    simp only [reduceCtorEq, exists_false, false_or, Except.ok.injEq, exists_eq_left',
      ← Zone.localize_dateOutOfRange]
    cases zone.localize m with
    | ok s => simp
    | error e => cases e <;> simp

/-- the messages that stop the program: a number of their date, as it was sent or as it is shown, is beyond
all clocks, or the local clock cannot be asked for it without leaving its years -/
theorem sent_fails_iff : (∃ x, f.sent zone = .error x) ↔ ∃ v, f.date? = some v ∧
    (Beyond v ∨ Beyond (shownDate v) ∨ ∃ m, Letter.read (shownDate v) = .ok m ∧ zone.Leaves m) := by
  cases h : f.date? with
  | none =>
    rw [sent_of_no_date h]
    exact iff_of_false nofun nofun
  | some v =>
    simp only [Option.some.injEq, exists_eq_left']
    by_cases hv : Beyond v
    · obtain ⟨e, he⟩ := Letter.read_tooLarge_iff.2 hv
      exact iff_of_true ⟨_, sent_of_tooLarge h he⟩ (.inl hv)
    · have hread : ∀ e, Letter.read v ≠ .error (.tooLarge e) :=
        fun e he => hv (Letter.read_tooLarge_iff.1 ⟨e, he⟩)
      rw [sent_of_date h hread, readShown_eq_error]
      simp only [hv, false_or]

/-! ## dates in the standard form -/

section
variable {d : DateLine} (hd : d.Regular) (h : f.date? = some d.text)
include hd h

/-- a date in the standard form is read from the local clock -/
theorem sent_of_regular {s : Stamp} (hs : zone.localize d.moment = .ok s) : f.sent zone = .ok (some s) := by
  have hread := Letter.read_text hd
  have hfirst : ∀ e, Letter.read d.text ≠ .error (.tooLarge e) := by
    rw [hread]
    nofun
  have hshown : shownDate d.text = d.moment.letter := by
    unfold shownDate
    rw [hread]
  rw [sent_of_date h hfirst, hshown]
  unfold readShown
  rw [Letter.read_letter hd]
  dsimp only
  rw [hs]

/-- if its offset is known, it is the instant that is named, wherever the local clock shows it -/
theorem sent_of_known (hknown : d.Known) (hyear : 2 ≤ (Reading.ofSeconds d.instant).date.year)
    (hyear' : (Reading.ofSeconds d.instant).date.year ≤ 9998) (hday : WithinDay (zone.offsetAt d.instant)) :
    f.sent zone = .ok (some ⟨d.instant, 0, zone.offsetAt d.instant⟩) := by
  have hvalid : (Reading.ofSeconds d.instant).IsValid := Reading.isValid_ofSeconds (by omega) (by omega)
  obtain ⟨hmargin, hmargin'⟩ := Reading.margin hvalid hyear hyear'
  rw [Reading.toSeconds_ofSeconds] at hmargin hmargin'
  refine sent_of_regular hd h ?_
  unfold DateLine.moment
  have hpos : (0 : Int) < secondsPerDay := by decide
  have hstays : ¬zone.LeavesAt d.instant := Zone.not_leavesAt_of_margin (by omega) (by omega)
  simp only [Zone.LeavesAt, not_or, not_not, hday, true_and] at hstays
  rw [if_pos hknown]
  exact Zone.toLocal_eq_ok.2 ⟨hstays.1, hday, hstays.2, rfl⟩

/-- if its offset is not known, it is the instant at which the local clock shows what is named -/
theorem sent_of_unknown (hunknown : ¬d.Known) (hyear : d.year ≤ 9998) (hz : zone.OffsetsWithinDay) :
    f.sent zone = .ok (some ⟨d.instant - zone.offsetAt (zone.instantFor d.instant false), 0,
      zone.offsetAt (d.instant - zone.offsetAt (zone.instantFor d.instant false))⟩) := by
  have hinstant : d.instant = d.reading.toSeconds := by
    rw [DateLine.instant, DateLine.offset_of_unknown hunknown, Int.sub_zero]
  have hfirst : (2 : Int) ≤ d.year := by
    have hlong := hd.year
    omega
  have hlast : (d.year : Int) ≤ 9998 := by exact_mod_cast hyear
  obtain ⟨hmargin, hmargin'⟩ := Reading.margin hd.valid hfirst hlast
  have hpos : (0 : Int) < secondsPerDay := by decide
  refine sent_of_regular hd h ?_
  unfold DateLine.moment
  rw [if_neg hunknown, hinstant]
  exact Zone.readLocal_of_margin hz (by omega) (by omega) 0 false

end

/-- **When messages were sent.**  The program stops exactly if a number of the date, as it was sent or as it is
shown, is beyond all clocks, or if the years of clocks are left on the way to it; so it does not if no number
is beyond them and the date is two days from both ends of these years.  A date in the standard form is the
instant that it names, if its offset is known; and local time, if it is not. -/
theorem sent_keeps_instant (zone : Zone) (f : Fetched) :
    ((∃ x, f.sent zone = .error x) ↔ ∃ v, f.date? = some v ∧
      (Beyond v ∨ Beyond (shownDate v) ∨ ∃ m, Letter.read (shownDate v) = .ok m ∧ zone.Leaves m)) ∧
    ((∀ v, f.date? = some v → ¬Beyond v ∧ ¬Beyond (shownDate v) ∧ ∀ m, Letter.read (shownDate v) = .ok m →
      firstSecond + 2 * secondsPerDay ≤ m.seconds ∧ m.seconds < endSecond - 2 * secondsPerDay) →
      ∃ s, f.sent zone = .ok s) ∧
    ∀ d : DateLine, d.Regular → f.date? = some d.text →
      (d.Known → 2 ≤ (Reading.ofSeconds d.instant).date.year → (Reading.ofSeconds d.instant).date.year ≤ 9998 →
        WithinDay (zone.offsetAt d.instant) →
        f.sent zone = .ok (some ⟨d.instant, 0, zone.offsetAt d.instant⟩)) ∧
      (¬d.Known → d.year ≤ 9998 → zone.OffsetsWithinDay →
        let offset := zone.offsetAt (zone.instantFor d.instant false)
        f.sent zone = .ok (some ⟨d.instant - offset, 0, zone.offsetAt (d.instant - offset)⟩)) := by
  refine ⟨sent_fails_iff, fun hinside => ?_, fun d hd h => ⟨?_, ?_⟩⟩
  · cases hsent : f.sent zone with
    | ok s => exact ⟨s, rfl⟩
    | error x =>
      obtain ⟨v, hv, hstops⟩ := sent_fails_iff.1 ⟨x, hsent⟩
      obtain ⟨hfirst, hshown, hmargin⟩ := hinside v hv
      rcases hstops with hbeyond | hbeyond | ⟨m, hm, hleaves⟩
      · exact absurd hbeyond hfirst
      · exact absurd hbeyond hshown
      · exact absurd hleaves (Zone.not_leaves_of_margin (hmargin m hm).1 (hmargin m hm).2)
  · exact fun hknown hyear hyear' hday => sent_of_known hd h hknown hyear hyear' hday
  · exact fun hunknown hyear hz => sent_of_unknown hd h hunknown hyear hz

/-- a message that is fetched alone -/
def alone (raw : Text) : Except Fault Fetched := do
  return ⟨1, [], raw.length, none, ← Message.read (Text.toOctets raw)⟩

/-- when a message was sent whose date has the comment `c` right behind it -/
def sentOn (zone : Zone) (d : DateLine) (c : Text) : Except Fault (Except Fault (Option Stamp)) :=
  (alone ("Date: " ++ d.text ++ c ++ "\r\n\r\n")).map (sent zone)

/-- a message whose date stands on two lines -/
theorem sent_keeps_instant_folded :
    ∃ f, alone "Date: mon,15\r\n\tJAN 2024 10:30 -0330 (NST)\r\n\r\nhi" = .ok f ∧
      f.date? = some DateLine.newfoundland.text ∧ DateLine.newfoundland.instant = 1705327200 ∧
      f.sent .centralEurope = .ok (some ⟨1705327200, 0, 3600⟩) := by
  have hread : (alone "Date: mon,15\r\n\tJAN 2024 10:30 -0330 (NST)\r\n\r\nhi").map date?
      = .ok (some DateLine.newfoundland.text) := by decide
  have hinstant : DateLine.newfoundland.instant = 1705327200 := by decide
  have hoffset : Zone.centralEurope.offsetAt 1705327200 = 3600 := by decide
  cases hf : alone "Date: mon,15\r\n\tJAN 2024 10:30 -0330 (NST)\r\n\r\nhi" with
  | error x =>
    rw [hf] at hread
    cases hread
  | ok f =>
    rw [hf] at hread
    have hdate : f.date? = some DateLine.newfoundland.text := Except.ok.inj hread
    have hsent := ((sent_keeps_instant .centralEurope f).2.2 DateLine.newfoundland
      ⟨by decide, by decide, by decide, by decide⟩ hdate).1 (by decide) (by rw [hinstant]; decide)
      (by rw [hinstant]; decide) (by rw [hinstant, hoffset]; decide)
    rw [hinstant, hoffset] at hsent
    exact ⟨f, rfl, hdate, hinstant, hsent⟩

/-- A date at the end of the calendar stops the program, and so does a year of eleven digits.  An offset that
is not known is taken for that of the local clock, and so is one with a comment right behind it; a year below
100 is taken for a short one; and there is no date if its offset is a day or more, if its minute has a second
too many, or if the local clock is a day behind. -/
theorem sent_stops_or_misses :
    (DateLine.plain 31 11 9999 23 30 (some 0) true 5 0).text = "31 Dec 9999 23:30:00 -0500" ∧
    sentOn .utc (.plain 31 11 9999 23 30 (some 0) true 5 0) [] = .ok (.error (.clock .dateOutOfRange)) ∧
    sentOn .utc (.plain 15 0 99999999999 10 30 (some 0) false 0 0) [] = .ok (.error (@Fault.hugeNumber .above)) ∧
    (DateLine.plain 15 0 2024 10 30 (some 0) true 0 0).instant = 1705314600 ∧
    Zone.read? "EST5" = some ⟨⟨-18000, "EST"⟩, none⟩ ∧
    sentOn ⟨⟨-18000, "EST"⟩, none⟩ (.plain 15 0 2024 10 30 (some 0) true 0 0) []
      = .ok (.ok (some ⟨1705332600, 0, -18000⟩)) ∧
    (DateLine.plain 15 0 2024 10 30 (some 0) false 5 0).instant = 1705296600 ∧
    sentOn .utc (.plain 15 0 2024 10 30 (some 0) false 5 0) "(PKT)" = .ok (.ok (some ⟨1705314600, 0, 0⟩)) ∧
    (DateLine.plain 15 0 50 10 30 (some 0) false 0 0).instant = -60588048600 ∧
    sentOn .utc (.plain 15 0 50 10 30 (some 0) false 0 0) [] = .ok (.ok (some ⟨2525855400, 0, 0⟩)) ∧
    sentOn .utc (.plain 15 0 2024 10 30 (some 0) false 25 0) [] = .ok (.ok none) ∧
    sentOn .utc (.plain 30 5 2015 23 59 (some 60) false 0 0) [] = .ok (.ok none) ∧
    Zone.read? "XXX24" = some .dayBehind ∧
    sentOn .dayBehind (.plain 15 0 2024 10 30 (some 0) false 0 0) [] = .ok (.ok none) := by
  decide +kernel

end Fetched
end Mailroom
