import Mailroom.Message.Composing
import Mailroom.Message.Writing
import Mailroom.Proofs.Codec.Utf8
import Mailroom.Proofs.Message.Beginning

/-!
# Lines of mails

Octets are read in lines, which end with CR LF, CR or LF; they are written in lines that end with LF.

* `closed`, `ended`, `IsOneLine`   lines as they are written; `ofOctets_ended_append` finds them again;
* `IsBreak`, `exists_of_mem_ofOctets`, `chop_append`   lines as they are read;
* `finished`, `joinLines_chop`     octets whose line breaks are line feeds, with one at their end;
* `ofText`, `finished_encode`      the same for a text.
-/

namespace Mailroom.Lines

/-! ## lines that end with a line feed -/

/-- a line with the line feed that ends it -/
def closed (l : Octets) : Octets := l ++ [10]

/-- lines, each ended by a line feed -/
def ended (ls : List Octets) : Octets := ls.flatMap closed

/-- octets without a line break -/
def IsOneLine (l : Octets) : Prop := ∀ c ∈ l, c ≠ 10 ∧ c ≠ 13

variable {l l' : Octets} {ls : List Octets} {c : UInt8}

theorem ended_cons (l : Octets) (ls : List Octets) : ended (l :: ls) = l ++ 10 :: ended ls := by
  simp [ended, closed]

theorem ended_append (ls ls' : List Octets) : ended (ls ++ ls') = ended ls ++ ended ls' := by
  simp [ended]

theorem flatten_map_closed (ls : List Octets) : (ls.map closed).flatten = ended ls := by
  rw [ended, List.flatMap_def]

theorem isOneLine_cons : IsOneLine (c :: l) ↔ (c ≠ 10 ∧ c ≠ 13) ∧ IsOneLine l := List.forall_mem_cons

theorem isOneLine_append : IsOneLine (l ++ l') ↔ IsOneLine l ∧ IsOneLine l' := List.forall_mem_append

theorem ofOctets_cons_of_ne (hc : c ≠ 10 ∧ c ≠ 13) (r : Octets) :
    ofOctets (c :: r) =
      match ofOctets r with
      | [] => [[c]]
      | l :: ls => (c :: l) :: ls := by
  have hne : ¬(c = 13 ∨ c = 10) := by tauto
  have hstep := ofOctets.eq_3 c r fun _ h => absurd h hc.2
  rw [if_neg hne] at hstep
  exact hstep.trans (by cases ofOctets r <;> rfl)

theorem ofOctets_line (h : IsOneLine l) (r : Octets) :
    ofOctets (l ++ 10 :: r) = closed l :: ofOctets r := by
  induction l with
  | nil => rfl
  | cons c l ih =>
    rw [isOneLine_cons] at h
    rw [List.cons_append, ofOctets_cons_of_ne h.1, ih h.2]
    rfl

/-- lines are found again in front of whatever follows -/
theorem ofOctets_ended_append (h : ∀ l ∈ ls, IsOneLine l) (r : Octets) :
    ofOctets (ended ls ++ r) = ls.map closed ++ ofOctets r := by
  induction ls with
  | nil => rfl
  | cons l ls ih =>
    rw [List.forall_mem_cons] at h
    rw [ended_cons, List.append_assoc, List.cons_append, ofOctets_line h.1, ih h.2]
    rfl

/-! ## lines without their line breaks -/

/-- a line break: CR LF, CR or LF, or none at the end of the last line -/
def IsBreak (e : Octets) : Prop := e = [13, 10] ∨ e = [13] ∨ e = [10] ∨ e = []

theorem chop_append {e : Octets} (h : IsOneLine l) (he : IsBreak e) : chop (l ++ e) = l := by
  have hrev : IsOneLine l.reverse := fun c hc => h c (List.mem_reverse.1 hc)
  have hback : l = l.reverse.reverse := (List.reverse_reverse l).symm
  generalize l.reverse = r at hrev hback
  subst hback
  unfold chop
  rw [List.reverse_append, List.reverse_reverse]
  cases r with
  | nil => obtain rfl | rfl | rfl | rfl := he <;> rfl
  | cons d r =>
    have hd := (isOneLine_cons.1 hrev).1
    obtain rfl | rfl | rfl | rfl := he <;> simp [hd.1, hd.2]

/-- every line is what stands in front of its line break, and the line break -/
theorem exists_of_mem_ofOctets {b : Octets} (h : l ∈ ofOctets b) :
    ∃ l' e, l = l' ++ e ∧ IsOneLine l' ∧ IsBreak e := by
  induction b using ofOctets.induct generalizing l with
  | case1 => cases h
  | case2 r ih =>
    rw [ofOctets, List.mem_cons] at h
    rcases h with rfl | h
    · exact ⟨[], _, rfl, by simp [IsOneLine], .inl rfl⟩
    · exact ih h
  | case3 c r hlone hc ih =>
    rw [ofOctets.eq_3 c r hlone, if_pos hc, List.mem_cons] at h
    rcases h with rfl | h
    · exact ⟨[], [c], rfl, by simp [IsOneLine], by simp [IsBreak, hc]⟩
    · exact ih h
  | case4 c r hlone hc hr ih =>
    rw [not_or] at hc
    rw [ofOctets_cons_of_ne hc.symm, hr, List.mem_singleton] at h
    exact ⟨[c], [], h, by simp [IsOneLine, hc], by simp [IsBreak]⟩
  | case5 c r hlone hc m ms hr ih =>
    rw [not_or] at hc
    rw [ofOctets_cons_of_ne hc.symm, hr] at h
    rcases List.mem_cons.1 h with rfl | h
    · obtain ⟨l', e, hm, hone, he⟩ := ih (hr ▸ List.mem_cons_self)
      exact ⟨c :: l', e, by rw [hm]; rfl, isOneLine_cons.2 ⟨hc.symm, hone⟩, he⟩
    · exact ih (hr ▸ List.mem_cons_of_mem m h)

theorem isOneLine_chop {b : Octets} (h : l ∈ ofOctets b) : IsOneLine (chop l) := by
  obtain ⟨l', e, rfl, hone, he⟩ := exists_of_mem_ofOctets h
  rwa [chop_append hone he]

theorem chop_cons {b : Octets} (h : l ∈ ofOctets b) (hc : c ≠ 10 ∧ c ≠ 13) : chop (c :: l) = c :: chop l := by
  obtain ⟨l', e, rfl, hone, he⟩ := exists_of_mem_ofOctets h
  rw [chop_append hone he, ← List.cons_append, chop_append (isOneLine_cons.2 ⟨hc, hone⟩) he]

/-! ## line breaks as line feeds -/

open Message (plainLines)

/-- octets whose line breaks are line feeds, with one more at their end if no line break stands there -/
def finished (b : Octets) : Octets :=
  if (plainLines b).getLast? = some 10 then plainLines b else plainLines b ++ [10]

theorem plainLines_ne_nil {b : Octets} (h : b ≠ []) : plainLines b ≠ [] := by
  unfold plainLines
  split
  · exact List.cons_ne_nil _ _
  · exact List.cons_ne_nil _ _
  · exact absurd rfl h

theorem finished_cons {b r : Octets} {d : UInt8} (h : plainLines b = d :: plainLines r) (hr : r ≠ []) :
    finished b = d :: finished r := by
  obtain ⟨x, xs, hx⟩ := List.exists_cons_of_ne_nil (plainLines_ne_nil hr)
  unfold finished
  rw [h, hx, List.getLast?_cons_cons]
  split <;> rfl

theorem ofOctets_ne_nil {b : Octets} (h : b ≠ []) : ofOctets b ≠ [] := fun hnil => h (ofOctets_eq_nil hnil)

/-- the lines of a text, each ended by a line feed -/
theorem ended_chop {b : Octets} (h : b ≠ []) : ended ((ofOctets b).map chop) = finished b := by
  induction b using ofOctets.induct with
  | case1 => exact absurd rfl h
  | case2 r ih =>
    rw [ofOctets, List.map_cons, ended_cons]
    rcases eq_or_ne r [] with rfl | hr
    · rfl
    · rw [ih hr, finished_cons (Message.plainLines.eq_1 r) hr]
      rfl
  | case3 c r hlone hc ih =>
    have hplain : plainLines (c :: r) = 10 :: plainLines r := by
      rw [Message.plainLines.eq_2 c r hlone]
      rcases hc with rfl | rfl <;> rfl
    have hchop : chop [c] = [] := by rcases hc with rfl | rfl <;> rfl
    rw [ofOctets.eq_3 c r hlone, if_pos hc, List.map_cons, ended_cons, hchop]
    rcases eq_or_ne r [] with rfl | hr
    · rcases hc with rfl | rfl <;> rfl
    · rw [ih hr, finished_cons hplain hr]
      rfl
  | case4 c r hlone hc hr ih =>
    rw [not_or] at hc
    obtain rfl := ofOctets_eq_nil hr
    have hplain : plainLines [c] = [c] := by
      rw [Message.plainLines.eq_2 c [] hlone, if_neg hc.1]
      rfl
    have hchop : chop [c] = [c] := chop_append (l := [c]) (e := []) (by simp [IsOneLine, hc]) (by simp [IsBreak])
    rw [ofOctets_cons_of_ne hc.symm, hr, List.map_singleton, ended_cons, hchop, finished, hplain,
      if_neg (by simpa using hc.2)]
    rfl
  | case5 c r hlone hc l ls hr ih =>
    rw [not_or] at hc
    have hne : r ≠ [] := by
      rintro rfl
      cases hr
    have hplain : plainLines (c :: r) = c :: plainLines r := by
      rw [Message.plainLines.eq_2 c r hlone, if_neg hc.1]
    have hlines := ih hne
    rw [hr, List.map_cons, ended_cons] at hlines
    rw [ofOctets_cons_of_ne hc.symm, hr, finished_cons hplain hne, ← hlines]
    show ended ((_ :: _).map chop) = _
    rw [List.map_cons, ended_cons, chop_cons (hr ▸ List.mem_cons_self) hc.symm]
    rfl

/-- the text of a mail is sent in lines that end with a line feed -/
theorem joinLines_chop (b : Octets) : Message.joinLines ((ofOctets b).map chop) = finished b := by
  unfold Message.joinLines
  rcases eq_or_ne b [] with rfl | hb
  · rfl
  · rw [if_neg (by simpa using ofOctets_ne_nil hb)]
    exact ended_chop hb

/-- what is written with line feeds only is sent as it is -/
theorem plainLines_of_no_return {b : Octets} (h : 13 ∉ b) : plainLines b = b := by
  induction b with
  | nil => rfl
  | cons c b ih =>
    rw [List.mem_cons, not_or] at h
    rw [Message.plainLines.eq_2 c b fun r hc _ => h.1 hc.symm, if_neg fun hc => h.1 hc.symm, ih h.2]

theorem plainLines_ended (h : ∀ l ∈ ls, IsOneLine l) : plainLines (ended ls) = ended ls := by
  refine plainLines_of_no_return fun hmem => ?_
  obtain ⟨l, hl, hmem⟩ := List.mem_flatMap.1 hmem
  rcases List.mem_append.1 hmem with hmem | hmem
  · exact (h l hl 13 hmem).2 rfl
  · exact absurd (List.mem_singleton.1 hmem) (by decide)

/-! ## lines of a text -/

theorem lineFeed_mem {c : Char} : 10 ∈ String.utf8EncodeChar c ↔ c = '\n' := by
  rw [Utf8.mem_encodeChar_iff (by decide)]
  exact Char.toNat_inj (c := c) (d := '\n')

theorem return_mem {c : Char} : 13 ∈ String.utf8EncodeChar c ↔ c = '\r' := by
  rw [Utf8.mem_encodeChar_iff (by decide)]
  exact Char.toNat_inj (c := c) (d := '\r')

theorem plainLines_append {a : Octets} (h : 13 ∉ a) (b : Octets) :
    plainLines (a ++ b) = a ++ plainLines b := by
  induction a with
  | nil => rfl
  | cons c a ih =>
    rw [List.mem_cons, not_or] at h
    rw [List.cons_append, Message.plainLines.eq_2 c _ fun r hc _ => h.1 hc.symm, if_neg fun hc => h.1 hc.symm,
      ih h.2, List.cons_append]

theorem plainLines_encode (s : Text) : plainLines (Utf8.encode s) = Utf8.encode (Disk.plainLines s) := by
  induction s using Disk.plainLines.induct with
  | case1 r ih =>
    rw [Disk.plainLines]
    exact congrArg (10 :: ·) ih
  | case2 r hr ih =>
    -- a line feed behind the carriage return could only come from a line feed of the text
    have hnext : ∀ x, (13 : UInt8) = 13 → Utf8.encode r = 10 :: x → False := by
      intro x _ hx
      cases r with
      | nil => cases hx
      | cons c r =>
        obtain ⟨b, bs, hc, -⟩ := Utf8.next_encode c []
        rw [Utf8.encode_cons, hc] at hx
        have hb : b = 10 := (List.cons.inj hx).1
        have hfeed : c = '\n' := lineFeed_mem.1 (hc ▸ hb ▸ List.mem_cons_self)
        exact hr r (by rw [hfeed])
    rw [Disk.plainLines.eq_2 r hr]
    show plainLines (13 :: Utf8.encode r) = 10 :: Utf8.encode (Disk.plainLines r)
    rw [Message.plainLines.eq_2 13 _ hnext, if_pos rfl, ih]
  | case3 c r hlone hc ih =>
    rw [Disk.plainLines.eq_3 c r hlone hc, Utf8.encode_cons, Utf8.encode_cons,
      plainLines_append (fun h => hc (return_mem.1 h)), ih]
  | case4 => rfl

theorem getLast?_encode_iff (s : Text) : (Utf8.encode s).getLast? = some 10 ↔ s.getLast? = some '\n' := by
  rcases List.eq_nil_or_concat s with rfl | ⟨s, c, rfl⟩
  · simp [Utf8.encode_nil]
  · obtain ⟨b, bs, hc, -⟩ := Utf8.next_encode c []
    have hlast : (Utf8.encode (s ++ [c])).getLast? = (String.utf8EncodeChar c).getLast? := by
      rw [Utf8.encode_append, Utf8.encode_cons, Utf8.encode_nil, List.append_nil, hc,
        List.getLast?_append_of_ne_nil _ (List.cons_ne_nil b bs)]
    rw [List.concat_eq_append, hlast, List.getLast?_concat, Option.some.injEq]
    constructor
    · intro h
      exact lineFeed_mem.1 (List.mem_of_getLast? h)
    · rintro rfl
      rfl

/-- a text with line feeds for all line breaks, and with one at its end -/
def ofText (s : Text) : Text :=
  if (Disk.plainLines s).getLast? = some '\n' then Disk.plainLines s else Disk.plainLines s ++ ['\n']

theorem finished_encode (s : Text) : finished (Utf8.encode s) = Utf8.encode (ofText s) := by
  unfold finished ofText
  rw [plainLines_encode]
  by_cases h : (Disk.plainLines s).getLast? = some '\n'
  · rw [if_pos h, if_pos ((getLast?_encode_iff _).2 h)]
  · rw [if_neg h, if_neg fun h' => h ((getLast?_encode_iff _).1 h'), Utf8.encode_append]
    rfl

end Mailroom.Lines
