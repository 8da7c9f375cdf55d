import Mailroom.Proofs.Imap.Finding
import Mailroom.Proofs.Imap.Telling
import Mailroom.Proofs.Lists

/-!
# What is read of what a server tells

The number, the flags, the size and the day of a message are found in the text around its literal, in
whatever order they stand there.  Flags and day are looked for from the end of the text, the size from its
front, so that flags in front of it can be mistaken for it.

* `storeDate?_text`      a date is read back;
* `findLastAfter?_about`, `sizeDigits?_front`   where flags, day and size are found;
* `number_about`, `flags_about`, `size?_about`, `received?_about`   what the text around a literal says;
* `Told.Legible`         a message whose numbers are not too long and whose size is not mistaken;
* `Told.decoded`, `Told.Decodes`   what has to be made of a message;
* `read_as_told`         an answer is read as one message for each that was told;
* `read_mistakes_size`   two flags that are taken for the size.
-/

namespace Mailroom

open Text (decimal)

/-! ## numbers -/

theorem takeDigits?_padLeft {k n : Nat} {r : Text} (hk : 0 < k) (hn : n < 10 ^ k) :
    takeDigits? k (Text.padLeft k '0' (decimal n) ++ r) = some (n, r) := by
  obtain ⟨ds, hds, hv⟩ := Text.exists_digits_padLeft k n
  have hlength := Text.length_padLeft_decimal hk hn
  unfold takeDigits?
  rw [List.take_left' hlength, List.drop_left' hlength, Text.filterMap_eq_of_mapM hds,
    if_pos ((Text.length_eq_of_mapM hds).symm.trans hlength)]
  exact congrArg (fun n => some (n, r)) hv

theorem WholeNumber.read_decimal {n : Nat} {shown : Text} (h : (decimal n).length ≤ maxDigits) :
    read shown (decimal n) = .ok (n : Int) := by
  rw [read, Text.readInteger_decimal h]

theorem Text.ofMail_toOctets {s : Text} (h : ∀ c ∈ s, c.toNat < 128) : ofMail (toOctets s) = s := by
  rw [ofMail, toOctets, List.map_map]
  conv_rhs => rw [← List.map_id s]
  refine List.map_congr_left fun c hc => ?_
  have hlt := h c hc
  have hnat : (UInt8.ofNat c.toNat).toNat = c.toNat := by
    rw [UInt8.toNat_ofNat']
    omega
  have hascii : UInt8.ofNat c.toNat < 128 := by
    rw [UInt8.lt_iff_toNat_lt, hnat]
    exact hlt
  show (if UInt8.ofNat c.toNat < 128 then Char.ofNat (UInt8.ofNat c.toNat).toNat else _) = c
  rw [if_pos hascii, hnat, Char.ofNat_toNat]

namespace Fetch

/-! ## dates -/

theorem dayOfMonth?_dayText (d : WrittenDate) (r : Text) :
    dayOfMonth? (d.dayText ++ r) = some (d.day.val, r) := by
  have hlast : Text.asciiDigit? (d.day.val % 10).digitChar = some (d.day.val % 10) :=
    Text.asciiDigit?_digitChar (Nat.mod_lt _ (by decide))
  unfold WrittenDate.dayText
  by_cases hblank : d.blank = true ∧ d.day.val < 10
  · rw [if_pos hblank]
    show (Text.asciiDigit? _).map _ = _
    rw [hlast, Nat.mod_eq_of_lt hblank.2]
    rfl
  · rw [if_neg hblank]
    have hfirst : Text.asciiDigit? (d.day.val / 10).digitChar = some (d.day.val / 10) :=
      Text.asciiDigit?_digitChar (by omega)
    have hall : ∀ n : Fin 4, n.val.digitChar ≤ '3' := by decide
    have hle : (d.day.val / 10).digitChar ≤ '3' := hall ⟨d.day.val / 10, by omega⟩
    simp [dayOfMonth?, hle, hfirst, hlast, Nat.div_add_mod]

theorem monthWord?_append {w r : Text} (hw : w.length = 3) :
    monthWord? (w ++ r) = (monthWord? w).map fun p => (p.1, p.2 ++ r) := by
  match w, hw with
  | [a, b, c], _ =>
    simp only [List.cons_append, List.nil_append, monthWord?]
    split <;> rfl

theorem monthWord?_monthName (m : Fin 12) (r : Text) :
    monthWord? (Date.monthName (m + 1) ++ r) = some (Date.monthName (m + 1), r) := by
  have hall : ∀ m : Fin 12, (Date.monthName (m + 1)).length = 3 ∧
      monthWord? (Date.monthName (m + 1)) = some (Date.monthName (m + 1), []) := by decide
  rw [monthWord?_append (hall m).1, (hall m).2]
  rfl

/-- a date as it is read -/
def WrittenDate.read (d : WrittenDate) : StoreDate :=
  ⟨d.day, Date.monthName (d.month + 1), d.year, d.seconds, d.offset⟩

theorem storeDate?_text (d : WrittenDate) (r : Text) : storeDate? (d.text ++ '"' :: r) = some d.read := by
  have hchar : ∀ (c : Char) (s : Text), takeChar? c (c :: s) = some s := fun c s => if_pos rfl
  have htwo : ∀ (n : Fin 100) (s : Text), takeDigits? 2 (Text.twoDigits n ++ s) = some (n.val, s) :=
    fun n s => takeDigits?_padLeft (by decide) n.isLt
  have hfour : ∀ s : Text, takeDigits? 4 (Text.fourDigits d.year ++ s) = some (d.year.val, s) :=
    fun s => takeDigits?_padLeft (by decide) d.year.isLt
  rw [WrittenDate.text_eq]
  unfold storeDate?
  simp only [WrittenDate.offsetText, List.append_assoc, List.cons_append]
  refine Option.bind_eq_some_iff.2 ⟨_, dayOfMonth?_dayText d _, ?_⟩
  refine Option.bind_eq_some_iff.2 ⟨_, hchar _ _, ?_⟩
  refine Option.bind_eq_some_iff.2 ⟨_, monthWord?_monthName d.month _, ?_⟩
  refine Option.bind_eq_some_iff.2 ⟨_, hchar _ _, ?_⟩
  refine Option.bind_eq_some_iff.2 ⟨_, hfour _, ?_⟩
  refine Option.bind_eq_some_iff.2 ⟨_, hchar _ _, ?_⟩
  refine Option.bind_eq_some_iff.2 ⟨_, htwo d.hour _, ?_⟩
  refine Option.bind_eq_some_iff.2 ⟨_, hchar _ _, ?_⟩
  refine Option.bind_eq_some_iff.2 ⟨_, htwo d.minute _, ?_⟩
  refine Option.bind_eq_some_iff.2 ⟨_, hchar _ _, ?_⟩
  refine Option.bind_eq_some_iff.2 ⟨_, htwo d.second _, ?_⟩
  refine Option.bind_eq_some_iff.2 ⟨_, hchar _ _, ?_⟩
  unfold WrittenDate.read WrittenDate.offset
  -- either sign stands in front of the same two numbers
  cases d.west <;>
  · refine Option.bind_eq_some_iff.2 ⟨_, rfl, ?_⟩
    refine Option.bind_eq_some_iff.2 ⟨_, htwo d.hourOff _, ?_⟩
    refine Option.bind_eq_some_iff.2 ⟨_, htwo d.minuteOff _, ?_⟩
    exact Option.bind_eq_some_iff.2 ⟨_, hchar _ _, rfl⟩

theorem StoreDate.instant_read (d : WrittenDate) :
    d.read.instant = if d.year.val = 0 then .error (.clock (.yearOutOfRange 0)) else .ok d.instant := by
  have hall : ∀ m : Fin 12, Date.monthNames.findIdx? (· == Date.monthName (m + 1)) = some m.val := by
    decide
  unfold StoreDate.instant WrittenDate.read
  simp only [hall]
  rfl

/-! ## what a text says -/

section
variable {a : Told}

theorem exists_about_eq (a : Told) : ∃ r, a.about = decimal a.number ++ ' ' :: r :=
  ⟨'(' :: ([' '].intercalate (a.order.map a.text) ++ ")"), by simp [Told.about]⟩

theorem number_about (h : (decimal a.number).length ≤ maxDigits) :
    WholeNumber.ofOctets ((Text.toOctets a.about).takeWhile (· ≠ 32)) = .ok (a.number : Int) := by
  obtain ⟨r, hr⟩ := exists_about_eq a
  have hfront : (Text.toOctets a.about).takeWhile (· ≠ 32) = Text.toOctets (decimal a.number) := by
    rw [hr, Text.toOctets, List.map_append, List.map_cons, List.takeWhile_append_of_pos]
    · simp [Text.toOctets]
    · intro x hx
      obtain ⟨c, hc, rfl⟩ := List.mem_map.1 hx
      refine Text.forall_digit (p := fun c => decide (UInt8.ofNat c.toNat ≠ 32) = true) (by decide) ?_
      exact Text.isDigit_of_mem_decimal hc
  have hascii : ∀ c ∈ decimal a.number, c.toNat < 128 := fun c hc =>
    Text.forall_digit (p := fun c => c.toNat < 128) (by decide) (Text.isDigit_of_mem_decimal hc)
  rw [hfront, WholeNumber.ofOctets, Text.ofMail_toOctets hascii, WholeNumber.read_decimal h]

/-- the last place of a word in the text around a literal, which is a single line -/
theorem findLastAfter?_about {α : Type} {x k r : Text} {c : Char} {test : Text → Option α} {v : α}
    (h : a.about = x ++ (k ++ [c]) ++ r) (hne : k ≠ []) (hc : c ∉ k) (hv : test r = some v)
    (hlast : ∀ t y, r = t ++ c :: y → ¬k <:+ t) : findLastAfter? (k ++ [c]) test a.about = some v := by
  have hline : '\n' ∉ x ++ k := by
    intro hmem
    have habout : '\n' ∈ a.about := by
      rw [h, ← List.append_assoc]
      exact List.mem_append_left _ (List.mem_append_left _ hmem)
    exact absurd (a.printable_about _ habout).1 (by decide)
  rw [h]
  exact findLastAfter?_eq_some hne hc hline hv hlast

/-! ### flags -/

theorem of_isAtomic {c : Char} (h : Search.isAtomic c = true) : Text.isAscii c = true ∧ isBlank c = false := by
  have hrange : 0x21 ≤ c.toNat ∧ c.toNat ≤ 0x7e := by
    simp only [Search.isAtomic, Bool.and_eq_true, decide_eq_true_eq] at h
    exact h.1
  have hall : ∀ n : Fin 0x5e, Text.isAscii (Char.ofNat (0x21 + n)) = true ∧
      isBlank (Char.ofNat (0x21 + n)) = false := by decide
  have hc := hall ⟨c.toNat - 0x21, by omega⟩
  rwa [Nat.add_sub_cancel' hrange.1, Char.ofNat_toNat] at hc

/-- the text up to the end of a list -/
def listed? (r : Text) : Option Text :=
  match Text.cutAt ')' r with
  | (inner, some _) => some inner
  | (_, none) => none

theorem flagWords_eq (s : Text) :
    flagWords s = match findLastAfter? "FLAGS (" listed? s with
      | some inner => Text.wordsBy isBlank inner
      | none => [] := rfl

theorem flagWords_about (a : Told) : flagWords a.about = a.flags := by
  obtain ⟨l₁, l₂, horder, -, h⟩ := a.exists_order_eq .flags
  have hclosing : ')' ∉ [' '].intercalate a.flags := by
    intro hc
    rcases Told.of_mem_flags hc with h | h | h <;> exact absurd h (by decide)
  have hopening : '(' ∉ [' '].intercalate a.flags ++ ')' :: a.back l₂ := by
    rw [List.mem_append, List.mem_cons]
    rintro (hc | hc | hc)
    · rcases Told.of_mem_flags hc with h | h | h <;> exact absurd h (by decide)
    · cases hc
    · refine Told.not_mem_back (fun u hu => ?_) (by decide) h hc
      cases u with
      | flags => rfl
      | size | date | body => cases hu
  have hsplit : a.about = a.front l₁ ++ ("FLAGS ".toList ++ ['(']) ++
      ([' '].intercalate a.flags ++ ')' :: a.back l₂) := by
    rw [Told.about_eq horder]
    show a.front l₁ ++ ("FLAGS (".toList ++ _ ++ ")".toList) ++ _ = _
    simp
  have hfind : findLastAfter? "FLAGS (" listed? a.about = some ([' '].intercalate a.flags) := by
    refine findLastAfter?_about hsplit (by decide) (by decide) ?_ fun t y hr => ?_
    · rw [listed?, Text.cutAt_append_cons hclosing]
    · rw [hr] at hopening
      exact absurd (List.mem_append_right t List.mem_cons_self) hopening
  rw [flagWords_eq, hfind]
  refine Text.wordsBy_intercalate (by decide) fun w hw => ?_
  obtain ⟨hne, hchars⟩ := of_mem_isFlag (a.isFlag w hw)
  refine ⟨hne, fun c hc => ?_⟩
  rcases hchars c hc with rfl | hc
  · decide
  · exact (of_isAtomic hc).2

theorem flags_about (a : Told) : flags a.about = .ok a.flags := by
  have hflag : ∀ w ∈ a.flags, flag w = .ok w := by
    intro w hw
    have hascii : (w.findIdx? fun c => !Text.isAscii c) = none := by
      refine List.findIdx?_eq_none_iff.2 fun c hc => ?_
      rcases (of_mem_isFlag (a.isFlag w hw)).2 c hc with rfl | hc
      · rfl
      · rw [(of_isAtomic hc).1]
        rfl
    rw [flag, hascii]
  rw [flags, flagWords_about, mapM_eq_ok, List.forall₂_same]
  exact hflag

/-! ### the date -/

theorem WrittenDate.not_blank_suffix {d : WrittenDate} : ¬[' '] <:+ d.text := by
  intro h
  have hlast : Text.twoDigits d.minuteOff <:+ d.text :=
    ((List.suffix_append _ _).trans (List.suffix_cons _ _)).trans (List.suffix_append _ _)
  have hlength : (Text.twoDigits d.minuteOff).length = 2 :=
    Text.length_padLeft_decimal (by decide) d.minuteOff.isLt
  have hblank := List.suffix_of_suffix_length_le h hlast (by rw [hlength]; decide)
  exact absurd (Text.isDigit_of_mem_padLeft (hblank.subset List.mem_cons_self)) (by decide)

theorem received?_about (zone : Zone) (a : Told) :
    received? zone a.about = (a.date.stamp zone).map some := by
  obtain ⟨l₁, l₂, horder, -, h⟩ := a.exists_order_eq .date
  have hbehind : '"' ∉ a.back l₂ := by
    refine Told.not_mem_back (fun u hu => ?_) (by decide) h
    cases u with
    | date => rfl
    | flags | size | body => cases hu
  have hquote : '"' ∉ a.date.text := a.date.quote_not_mem
  have hsplit : a.about = a.front l₁ ++ ("INTERNALDATE ".toList ++ ['"']) ++
      (a.date.text ++ '"' :: a.back l₂) := by
    rw [Told.about_eq horder]
    show a.front l₁ ++ ("INTERNALDATE \"".toList ++ _ ++ "\"".toList) ++ _ = _
    simp
  have hfind : findLastAfter? "INTERNALDATE \"" storeDate? a.about = some a.date.read := by
    refine findLastAfter?_about hsplit (by decide) (by decide) (storeDate?_text _ _) fun t y hr hk => ?_
    -- the quote behind the date has a digit in front of it
    rcases Text.append_cons_cases hr with ⟨ht, -⟩ | ⟨u, ht, hback⟩ | ⟨u, htext, -⟩
    · exact WrittenDate.not_blank_suffix (ht ▸ List.IsSuffix.trans (by decide) hk)
    · rw [hback] at hbehind
      exact hbehind (List.mem_append_right u List.mem_cons_self)
    · rw [htext] at hquote
      exact hquote (List.mem_append_right t List.mem_cons_self)
  unfold received?
  rw [hfind]
  dsimp only
  rw [StoreDate.instant_read, WrittenDate.stamp]
  split
  · rfl
  · show (orFault _ _ >>= _) = _
    cases orFault Fault.clock (zone.ofInstant a.date.instant) <;> rfl

/-! ### the size -/

/-- the digits in front of a text, if there are any -/
def leadingDigits? (r : Text) : Option Text :=
  match r.takeWhile fun c => (Text.asciiDigit? c).isSome with
  | [] => none
  | ds => some ds

/-- what is found where the size is looked for -/
def sizeDigits? (s : Text) : Option Text := findAfter? "RFC822.SIZE " leadingDigits? s

theorem size?_eq (s : Text) :
    size? s = match sizeDigits? s with
      | none => .ok none
      | some ds => (WholeNumber.ofText ds).map some := rfl

theorem leadingDigits?_eq_none {s : Text} (h : s.head?.bind Text.asciiDigit? = none) :
    leadingDigits? s = none := by
  cases s with
  | nil => rfl
  | cons c s =>
    have hc : Text.asciiDigit? c = none := h
    simp [leadingDigits?, hc]

theorem leadingDigits?_decimal {n : Nat} {r : Text} (h : r.head?.bind Text.asciiDigit? = none) :
    leadingDigits? (decimal n ++ r) = some (decimal n) := by
  have hdigits : ∀ c ∈ decimal n, (Text.asciiDigit? c).isSome = true :=
    fun c hc => Text.isSome_asciiDigit? (Text.isDigit_of_mem_decimal hc)
  have hrest : r.takeWhile (fun c => (Text.asciiDigit? c).isSome) = [] := by
    cases r with
    | nil => rfl
    | cons c r =>
      have hc : Text.asciiDigit? c = none := h
      simp [hc]
  obtain ⟨c, t, hct⟩ := List.exists_cons_of_ne_nil (Text.decimal_ne_nil n)
  rw [leadingDigits?, List.takeWhile_append_of_pos hdigits, hrest, List.append_nil, hct]

theorem sizeDigits?_append {s r : Text} (h : 'R' ∉ s) : sizeDigits? (s ++ r) = sizeDigits? r :=
  findAfter?_append_of_not_mem h rfl

/-- a word that cannot be mistaken for the name of the size, because of its end or of what follows -/
theorem sizeDigits?_word {w r : Text} (hw : ' ' ∉ w)
    (h : "RFC822.SIZE".toList <:+ w → r.head?.bind Text.asciiDigit? = none) :
    sizeDigits? (w ++ ' ' :: r) = sizeDigits? r :=
  findAfter?_append_cons (k := "RFC822.SIZE") hw (by decide)
    fun _ hk => leadingDigits?_eq_none (h hk)

theorem sizeDigits?_closed {w r : Text} (hw : ' ' ∉ w) : sizeDigits? (w ++ ')' :: r) = sizeDigits? r :=
  findAfter?_append_cons (k := "RFC822.SIZE") hw (by decide) nofun

/-- flags of which none ends like the name of the size in front of one that begins like a number -/
def Distinct (flags : List Text) : Prop :=
  flags.IsChain fun w v => "RFC822.SIZE".toList <:+ w → v.head?.bind Text.asciiDigit? = none

instance : DecidablePred Distinct := fun flags => inferInstanceAs (Decidable (List.IsChain _ flags))

theorem sizeDigits?_flags {ws : List Text} (hws : ∀ w ∈ ws, IsFlag w) (h : Distinct ws) (r : Text) :
    sizeDigits? ([' '].intercalate ws ++ ')' :: r) = sizeDigits? r := by
  have hblank : ∀ w, IsFlag w → ' ' ∉ w := by
    intro w hw hc
    rcases (of_mem_isFlag hw).2 _ hc with h | h <;> exact absurd h (by decide)
  induction ws with
  | nil => exact sizeDigits?_closed (w := []) nofun
  | cons w ws ih =>
    rw [List.forall_mem_cons] at hws
    cases ws with
    | nil =>
      rw [List.intercalate_singleton]
      exact sizeDigits?_closed (hblank w hws.1)
    | cons v ws =>
      obtain ⟨hwv, hchain⟩ := List.isChain_cons_cons.1 h
      rw [List.intercalate_cons_cons, List.append_assoc, List.append_assoc, List.singleton_append,
        sizeDigits?_word (hblank w hws.1), ih hws.2 hchain]
      -- the next flag stands in front of what follows
      intro hsuffix
      obtain ⟨e, u, rfl⟩ := List.exists_cons_of_ne_nil (of_mem_isFlag (hws.2 v List.mem_cons_self)).1
      rw [Text.intercalate_cons]
      exact hwv hsuffix

/-- another attribute is not mistaken for the size -/
theorem sizeDigits?_text {t : Attribute} (ht : t ≠ .size) (hflags : t = .flags → Distinct a.flags)
    (r : Text) : sizeDigits? (a.text t ++ ' ' :: r) = sizeDigits? r := by
  cases t with
  | size => exact absurd rfl ht
  | flags =>
    have htext : a.text .flags ++ ' ' :: r
        = "FLAGS (".toList ++ ([' '].intercalate a.flags ++ ')' :: ([' '] ++ r)) := by
      show ("FLAGS (".toList ++ _ ++ ")".toList) ++ _ = _
      simp
    rw [htext, sizeDigits?_append (by decide), sizeDigits?_flags a.isFlag (hflags rfl),
      sizeDigits?_append (by decide)]
  | date =>
    have htext : a.text .date ++ ' ' :: r
        = "INTERNALDATE".toList ++ ' ' :: (('"' :: (a.date.text ++ ['"', ' '])) ++ r) := by
      show ("INTERNALDATE \"".toList ++ _ ++ "\"".toList) ++ _ = _
      simp
    have hdate : ∀ c ∈ '"' :: (a.date.text ++ ['"', ' ']), (c != 'R') = true := by
      rw [List.forall_mem_cons, List.forall_mem_append]
      refine ⟨by decide, ?_, List.all_eq_true.1 (by decide)⟩
      refine WrittenDate.forall_mem_text ?_ (by decide) (by decide) (by decide) (by decide) (by decide)
      exact fun c => Text.forall_digit (p := fun c => (c != 'R') = true) (by decide)
    rw [htext, sizeDigits?_word (by decide) (fun h => absurd h (by decide)),
      sizeDigits?_append fun h => absurd (hdate _ h) (by decide)]
  | body =>
    have hblock : ∀ c ∈ '\x7b' :: (decimal a.body.length ++ ['\x7d', ' ']), (c != 'R') = true := by
      rw [List.forall_mem_cons, List.forall_mem_append]
      refine ⟨by decide, fun c hc => ?_, List.all_eq_true.1 (by decide)⟩
      exact Text.forall_digit (p := fun c => (c != 'R') = true) (by decide) (Text.isDigit_of_mem_decimal hc)
    have hpart : ' ' ∉ a.part ∧ ¬"RFC822.SIZE".toList <:+ a.part := by
      unfold Told.part
      split <;> decide
    have htext : a.text .body ++ ' ' :: r
        = a.part ++ ' ' :: (('\x7b' :: (decimal a.body.length ++ ['\x7d', ' '])) ++ r) := by
      show (a.part ++ " \x7b".toList ++ _ ++ "\x7d".toList) ++ _ = _
      simp
    rw [htext, sizeDigits?_word hpart.1 (fun h => absurd h hpart.2),
      sizeDigits?_append fun h => absurd (hblock _ h) (by decide)]

theorem sizeDigits?_front {l : List Attribute} (hsize : .size ∉ l) (hflags : .flags ∈ l → Distinct a.flags)
    (r : Text) : sizeDigits? (a.front l ++ r) = sizeDigits? r := by
  have hdecimal : 'R' ∉ decimal a.number ++ " (" := by
    rw [List.mem_append]
    rintro (h | h)
    · exact absurd (Text.isDigit_of_mem_decimal h) (by decide)
    · exact absurd h (by decide)
  rw [Told.front, List.append_assoc, sizeDigits?_append hdecimal]
  induction l with
  | nil => rfl
  | cons t l ih =>
    rw [List.mem_cons, not_or] at hsize
    have hrest := ih hsize.2 fun h => hflags (List.mem_cons_of_mem _ h)
    rw [List.flatMap_cons, List.append_assoc, List.append_assoc, List.singleton_append,
      sizeDigits?_text (Ne.symm hsize.1) (fun h => hflags (h ▸ List.mem_cons_self)), hrest]

/-- whether the size that a message has can be read: it stands in front of the flags, or they are
distinct -/
def Told.Sized (a : Told) : Prop := a.order.idxOf .size < a.order.idxOf .flags ∨ Distinct a.flags

theorem size?_about (h : a.Sized) (hdigits : (decimal a.size).length ≤ maxDigits) :
    size? a.about = .ok (some (a.size : Int)) := by
  obtain ⟨l₁, l₂, horder, hsize, -⟩ := a.exists_order_eq .size
  have hflags : .flags ∈ l₁ → Distinct a.flags := by
    intro hmem
    refine h.resolve_left fun hlt => ?_
    rw [horder, List.idxOf_append_of_notMem hsize, List.idxOf_append_of_mem hmem] at hlt
    have := List.idxOf_lt_length_of_mem hmem
    omega
  have hrest : (a.back l₂).head?.bind Text.asciiDigit? = none := by
    cases l₂ <;> rfl
  have hfind : sizeDigits? a.about = some (decimal a.size) := by
    rw [Told.about_eq horder, List.append_assoc, sizeDigits?_front hsize hflags]
    show sizeDigits? (("RFC822.SIZE ".toList ++ decimal a.size) ++ a.back l₂) = _
    rw [List.append_assoc]
    exact findAfter?_eq_some (leadingDigits?_decimal hrest)
  rw [size?_eq, hfind]
  show (WholeNumber.read _ _).map some = _
  rw [WholeNumber.read_decimal hdigits]
  rfl

/-! ## answers -/

/-- a message that can be read: its numbers are not too long, and its size is not mistaken -/
structure Told.Legible (a : Told) : Prop where
  number : (decimal a.number).length ≤ maxDigits
  size : (decimal a.size).length ≤ maxDigits
  sized : a.Sized

/-- what has to be made of a message, or the fault of its date or of its octets -/
def Told.decoded (zone : Zone) (a : Told) : Except Fault Fetched := do
  let received ← a.date.stamp zone
  let m ← Message.read a.body
  return ⟨a.number, a.flags, a.size, some received, m⟩

theorem message_about (zone : Zone) (h : a.Legible) :
    message zone (Text.toOctets a.about) a.body = a.decoded zone := by
  have hascii : ∀ c ∈ a.about, c.toNat < 128 := fun c hc => by
    have := (a.printable_about c hc).2
    omega
  unfold message Told.decoded
  rw [number_about h.number, Text.ofMail_toOctets hascii]
  dsimp only
  rw [flags_about, size?_about h.sized h.size, received?_about]
  cases a.date.stamp zone <;> rfl

theorem literals_items (a : Told) (rest : List FetchItem) :
    literals (a.items ++ rest) = (Text.toOctets a.about, a.body) :: literals rest := by
  have hbehind : ∀ is : List FetchItem, (∀ front body, .literal front body ∉ is) →
      literals (is ++ rest) = literals rest := by
    intro is his
    induction is with
    | nil => rfl
    | cons i is ih =>
      have hrest := ih fun front body h => his front body (List.mem_cons_of_mem _ h)
      cases i with
      | literal front body => exact absurd List.mem_cons_self (his front body)
      | line b => exact hrest
      | nothing => exact hrest
  have habout : a.about = (a.front a.before ++ a.text .body) ++ a.back a.after := Told.about_eq rfl
  rw [habout, Text.toOctets, List.map_append]
  show (_, _) :: literals (a.behind ++ rest) = _
  rw [hbehind a.behind a.noLiteral]
  rfl

end

theorem read_items (zone : Zone) {answers : List Told} (h : ∀ a ∈ answers, a.Legible) :
    read zone (answers.flatMap Told.items) = answers.mapM (Told.decoded zone) := by
  unfold read
  induction answers with
  | nil => rfl
  | cons a answers ih =>
    rw [List.forall_mem_cons] at h
    rw [List.flatMap_cons, literals_items, List.mapM_cons, List.mapM_cons, ih h.2,
      message_about zone h.1]

/-- a message as it was told: with its number, its flags and its size, with the day it was received on the
local clock, and as its octets are read -/
structure Told.Decodes (zone : Zone) (a : Told) (f : Fetched) : Prop where
  number : f.number = a.number
  flags : f.flags = a.flags
  size : f.size = a.size
  received : ∃ s, a.date.stamp zone = .ok s ∧ f.received = some s
  message : Message.read a.body = .ok f.message

theorem decoded_eq_ok {zone : Zone} {a : Told} {f : Fetched} :
    a.decoded zone = .ok f ↔ a.Decodes zone f := by
  unfold Told.decoded
  simp only [bind_eq_ok, pure_eq_ok]
  constructor
  · rintro ⟨s, hs, m, hm, rfl⟩
    exact ⟨rfl, rfl, rfl, ⟨s, hs, rfl⟩, hm⟩
  · rintro ⟨hnumber, hflags, hsize, ⟨s, hs, hreceived⟩, hm⟩
    refine ⟨s, hs, f.message, hm, ?_⟩
    rw [← hnumber, ← hflags, ← hsize, ← hreceived]

/-- **What was told is what is read.**  Let a server tell of messages, in whatever order it puts their
attributes and their literals and whatever lines come behind them, and let no flags be mistaken for the
size.  What is read is one message for each, in order, as it was told.  There is a result exactly if the
local clock reaches every date and all octets can be read as messages. -/
theorem read_as_told (zone : Zone) (answers : List Told) (h : ∀ a ∈ answers, a.Legible) :
    (∀ fs, read zone (answers.flatMap Told.items) = .ok fs ↔ List.Forall₂ (Told.Decodes zone) answers fs) ∧
    ((∃ fs, read zone (answers.flatMap Told.items) = .ok fs) ↔
      ∀ a ∈ answers, (∃ s, a.date.stamp zone = .ok s) ∧ ∃ m, Message.read a.body = .ok m) := by
  rw [read_items zone h]
  constructor
  · intro fs
    rw [mapM_eq_ok]
    simp only [decoded_eq_ok]
  · rw [exists_mapM_eq_ok]
    refine forall₂_congr fun a _ => ?_
    unfold Told.decoded
    simp only [exists_bind_eq_ok_iff, pure_eq_ok, exists_eq', and_true, exists_and_right]

/-- the fifteenth of January 2024, half past ten in Greenwich -/
def someDate : WrittenDate := ⟨15, false, 0, 2024, 10, 30, 0, false, 0, 0⟩

def shortMail : Octets := Text.toOctets "Subject: a\r\n\r\nA"

theorem exists_read_shortMail : ∃ m, Message.read shortMail = .ok m := by
  have h : (Message.read shortMail).toOption.isSome = true := by decide +kernel
  cases hm : Message.read shortMail with
  | ok m => exact ⟨m, rfl⟩
  | error e =>
    rw [hm] at h
    cases h

/-- a message told with its literal behind everything else -/
def toldBefore : Told where
  number := 4
  flags := ["\\Seen", "Work"]
  size := 100
  date := someDate
  body := shortMail
  headerOnly := false
  before := [.flags, .size, .date]
  after := []
  behind := [.nothing, .line (Text.toOctets "5 EXPUNGE")]
  number_pos := by decide
  isFlag := by decide
  complete := by decide
  noLiteral := by simp

/-- a message told with its literal in front of everything else -/
def toldAfter : Told where
  number := 5
  flags := ["XRFC822.SIZE", "12"]
  size := 100
  date := someDate
  body := shortMail
  headerOnly := false
  before := []
  after := [.date, .size, .flags]
  behind := []
  number_pos := by decide
  isFlag := by decide
  complete := by decide
  noLiteral := by simp

theorem read_as_told_both :
    (∀ a ∈ [toldBefore, toldAfter], a.Legible) ∧
    ∃ fs, read .utc ([toldBefore, toldAfter].flatMap Told.items) = .ok fs ∧
      List.Forall₂ (Told.Decodes .utc) [toldBefore, toldAfter] fs := by
  have hlegible : ∀ a ∈ [toldBefore, toldAfter], a.Legible := by
    simp only [List.forall_mem_cons]
    exact ⟨⟨by decide, by decide, .inr (by decide)⟩, ⟨by decide, by decide, .inl (by decide)⟩, nofun⟩
  have hstamp : ∃ s, someDate.stamp .utc = .ok s := ⟨_, rfl⟩
  obtain ⟨hread, hexists⟩ := read_as_told .utc [toldBefore, toldAfter] hlegible
  obtain ⟨fs, hfs⟩ := hexists.2 (by simpa using ⟨⟨hstamp, exists_read_shortMail⟩, hstamp, exists_read_shortMail⟩)
  exact ⟨hlegible, fs, hfs, (hread fs).1 hfs⟩

/-- the message with its literal behind everything else, whose flags are mistaken for its size -/
def toldMistaken : Told :=
  { toldAfter with
    before := [.flags, .size, .date]
    after := []
    complete := by decide }

/-- the name of the size is looked for inside words as well: a flag that ends like it, in front of one that
begins like a number, is taken for the size -/
theorem read_mistakes_size :
    "RFC822.SIZE".toList ∉ toldMistaken.flags ∧
    (∃ s, toldMistaken.date.stamp .utc = .ok s) ∧ (∃ m, Message.read toldMistaken.body = .ok m) ∧
    (read .utc toldMistaken.items).toOption.map (·.map Fetched.size) = some [12] ∧
    toldMistaken.size = 100 ∧
    ¬∃ fs, read .utc ([toldMistaken].flatMap Told.items) = .ok fs ∧
      List.Forall₂ (Told.Decodes .utc) [toldMistaken] fs := by
  have hsizes : (read .utc toldMistaken.items).toOption.map (·.map Fetched.size) = some [12] := by
    decide +kernel
  refine ⟨by decide, ⟨_, rfl⟩, exists_read_shortMail, hsizes, rfl, ?_⟩
  rintro ⟨fs, hfs, hdecodes⟩
  obtain ⟨f, fs, hf, -, rfl⟩ := List.forall₂_cons_left_iff.1 hdecodes
  rw [show toldMistaken.items = [toldMistaken].flatMap Told.items from (List.append_nil _).symm, hfs] at hsizes
  cases hf.size.symm.trans (List.cons.inj (Option.some.inj hsizes)).1

end Fetch
end Mailroom
