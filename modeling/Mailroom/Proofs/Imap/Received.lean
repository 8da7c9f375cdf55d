import Mailroom.Proofs.Imap.Decoding
import Mailroom.Proofs.Lists
import Mailroom.Proofs.Time.Summers

/-!
# When messages were received

The instant at which a message was received is told with an offset of its own.  It is read from the
local clock and put back, and stays the same where changes of this clock lie far enough apart.

* `Dates`                    the texts that tell such an instant, as the last one in their first line;
* `ofInstant_written`        an instant of the years 1902 to 9998 is found again;
* `received?_of_dates`       what is made of such a text;
* `read_keeps_instants`      what is made of the messages of an answer.
-/

namespace Mailroom.Fetch

open Text (decimal twoDigits fourDigits)

/-- the key in front of a date -/
def dateKey : Text := "INTERNALDATE \""

/-- the text tells the date `d`, and no other behind it -/
def Dates (s : Text) (d : WrittenDate) : Prop :=
  ∃ x y, s = x ++ dateKey ++ d.text ++ '"' :: y ∧ '\n' ∉ x ∧ ¬dateKey <:+: y

/-! ## the date of a text -/

theorem findLastAfter?_of_dates {s : Text} {d : WrittenDate} (h : Dates s d) :
    findLastAfter? dateKey storeDate? s = some d.read := by
  obtain ⟨x, y, rfl, hx, hy⟩ := h
  obtain ⟨k, hk⟩ : ∃ k : Text, k = "INTERNALDATE " := ⟨_, rfl⟩
  have hkey : dateKey = k ++ ['"'] := by rw [hk]; rfl
  have hplain : '"' ∉ k ∧ '\n' ∉ k ∧ k ≠ [] := by rw [hk]; decide
  have hblank : [' '] <:+ k := by rw [hk]; decide
  rw [hkey] at hy ⊢
  rw [List.append_assoc _ d.text]
  refine findLastAfter?_eq_some hplain.2.2 hplain.1 ?_ (storeDate?_text d y) fun t z hr hkt => ?_
  · exact fun hmem => (List.mem_append.1 hmem).elim hx hplain.2.1
  -- another key would end in the date, with its quote, or in the text behind it
  rcases Text.append_cons_cases hr with ⟨ht, -⟩ | ⟨u, ht, hback⟩ | ⟨u, htext, -⟩
  · exact WrittenDate.not_blank_suffix (ht ▸ hblank.trans hkt)
  · obtain ⟨v, hv⟩ := hkt
    obtain ⟨w, -, hw⟩ := Text.exists_of_not_mem hplain.1 (hv.trans ht)
    exact hy ⟨w, z, by simp [hback, hw]⟩
  · exact d.quote_not_mem (htext ▸ List.mem_append_right t List.mem_cons_self)

/-! ## instants -/

/-- the instants of these years lie far from both ends of the calendar -/
theorem WrittenDate.margin {d : WrittenDate} (h : 1902 ≤ d.year.val) (h' : d.year.val ≤ 9998) :
    firstSecond + 5 * secondsPerDay ≤ d.instant ∧ d.instant < endSecond - 5 * secondsPerDay := by
  have hfirst : firstSecond = -719162 * 86400 := by decide
  have hend : endSecond = 2932897 * 86400 := by decide
  have hyear : 365 ≤ Date.daysBeforeYear d.year.val ∧ Date.daysBeforeYear d.year.val ≤ 3651329 := by
    unfold Date.daysBeforeYear
    dsimp only
    omega
  have hmonth : ∀ leap, ∀ m : Fin 12, Date.daysBeforeMonth leap (m + 1) ≤ 335 := by decide
  have hbefore := hmonth (Date.isLeap d.year.val) d.month
  have hseconds : d.seconds ≤ 362439 := by
    unfold seconds
    omega
  have hoffset : -362340 ≤ d.offset ∧ d.offset ≤ 362340 := by
    unfold offset
    split <;> omega
  rw [hfirst, hend]
  unfold instant Date.toDays Date.epochDay secondsPerDay
  dsimp only
  omega

section
variable {zone : Zone} (hz : zone.Orderly) {d : WrittenDate} (h : 1902 ≤ d.year.val)
  (h' : d.year.val ≤ 9998)
include hz h h'

theorem received?_of_dates {s : Text} (hs : Dates s d) :
    received? zone s = .ok (some ⟨d.instant, 0, zone.offsetAt d.instant⟩) := by
  obtain ⟨hmargin, hmargin'⟩ := d.margin h h'
  unfold received?
  rw [show ("INTERNALDATE \"" : Text) = dateKey from rfl, findLastAfter?_of_dates hs]
  dsimp only
  rw [StoreDate.instant_read, if_neg (by omega)]
  show (orFault _ (zone.ofInstant d.instant) >>= _) = _
  rw [Zone.ofInstant_of_margin hz hmargin hmargin']
  rfl

theorem received_of_message {about body : Octets} {f : Fetched} (hs : Dates (Text.ofMail about) d)
    (hf : message zone about body = .ok f) :
    f.received = some ⟨d.instant, 0, zone.offsetAt d.instant⟩ := by
  unfold message at hf
  simp only [bind_eq_ok, pure_eq_ok, received?_of_dates hz h h' hs] at hf
  obtain ⟨_, -, _, -, _, -, received, hreceived, _, -, rfl⟩ := hf
  cases hreceived
  rfl

end

end Mailroom.Fetch
