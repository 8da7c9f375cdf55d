import Mailroom.Imap.Fetch
import Mailroom.Proofs.Search.Line
import Mailroom.Proofs.Text.Decimal
import Mailroom.Proofs.Text.Pieces
import Mathlib.Data.List.Nodup

/-!
# What a server tells of messages

For each message a server tells its number and, in any order, its flags, its size and the day it was
received, and sends the message itself as a literal among these.  What stands before the literal comes
with it, the rest comes as a line behind it, and lines of other kinds may follow.

* `WrittenDate`          a date as a server writes it, and its instant;
* `Attribute`, `Told`    what is told of a message, and in which order;
* `Told.items`           the items of an answer for it;
* `Told.about`, `Told.about_eq`   the text around the literal, seen from one attribute;
* `Attribute.admits`     which characters stand in the text of an attribute.
-/

namespace Mailroom.Fetch

open Text (decimal twoDigits fourDigits)

/-! ## dates -/

/-- a date as a server writes it, in the widths that it has; it need not exist -/
structure WrittenDate where
  day : Fin 40
  /-- whether a day below ten is filled up with a blank -/
  blank : Bool
  month : Fin 12
  year : Fin 10000
  hour : Fin 100
  minute : Fin 100
  second : Fin 100
  /-- whether the clock is behind that of Greenwich -/
  west : Bool
  hourOff : Fin 100
  minuteOff : Fin 100
deriving DecidableEq, Repr

namespace WrittenDate

variable (d : WrittenDate)

/-- the two characters of the day -/
def dayText : Text :=
  [if d.blank ∧ d.day.val < 10 then ' ' else (d.day.val / 10).digitChar, (d.day.val % 10).digitChar]

/-- the offset of the clock, with its sign -/
def offsetText : Text := (if d.west then '-' else '+') :: (twoDigits d.hourOff ++ twoDigits d.minuteOff)

/-- a date as it is written -/
def text : Text :=
  d.dayText ++ "-" ++ Date.monthName (d.month + 1) ++ "-" ++ fourDigits d.year ++ " "
    ++ twoDigits d.hour ++ ":" ++ twoDigits d.minute ++ ":" ++ twoDigits d.second ++ " " ++ d.offsetText

/-- the seconds of the day -/
def seconds : Nat := d.hour * 3600 + d.minute * 60 + d.second

/-- the offset of the clock in seconds -/
def offset : Int := (if d.west then -1 else 1) * ((d.hourOff * 60 + d.minuteOff) * 60 : Nat)

/-- the instant that a date names -/
def instant : Int :=
  (Date.toDays ⟨d.year.val, d.month + 1, 1⟩ + d.day.val - 1) * secondsPerDay + d.seconds - d.offset

/-- a date on the local clock; there is no year 0, and the clock may not reach the instant -/
def stamp (zone : Zone) : Except Fault Stamp :=
  if d.year.val = 0 then .error (.clock (.yearOutOfRange 0)) else orFault .clock (zone.ofInstant d.instant)

end WrittenDate

/-! ## attributes -/

/-- what is told of a message apart from its number; `body` is the message itself -/
inductive Attribute where
  | flags
  | size
  | date
  | body
deriving DecidableEq, Repr

/-- a flag: an atom, which may have a backslash in front -/
def IsFlag (w : Text) : Prop := Search.IsAtom (if w.head? = some '\\' then w.tail else w)

instance : DecidablePred IsFlag := fun w =>
  inferInstanceAs (Decidable (Search.IsAtom (if w.head? = some '\\' then w.tail else w)))

/-- a message as a server tells it -/
structure Told where
  number : Nat
  flags : List Text
  size : Nat
  date : WrittenDate
  body : Octets
  /-- whether only its header was asked for -/
  headerOnly : Bool
  /-- the attributes before the literal and behind it -/
  before : List Attribute
  after : List Attribute
  /-- what comes before the next message -/
  behind : List FetchItem
  number_pos : 0 < number
  isFlag : ∀ w ∈ flags, IsFlag w
  complete : (before ++ .body :: after).Perm [.flags, .size, .date, .body]
  noLiteral : ∀ front body, FetchItem.literal front body ∉ behind

namespace Told

variable (a : Told)

/-- the attributes in the order in which they are told -/
def order : List Attribute := a.before ++ .body :: a.after

/-- what the literal holds -/
def part : Text := if a.headerOnly then "BODY[HEADER]" else "BODY[]"

/-- the text of an attribute; of the message, what stands in front of its literal -/
def text : Attribute → Text
  | .flags => "FLAGS (" ++ [' '].intercalate a.flags ++ ")"
  | .size => "RFC822.SIZE " ++ decimal a.size
  | .date => "INTERNALDATE \"" ++ a.date.text ++ "\""
  | .body => a.part ++ " \x7b" ++ decimal a.body.length ++ "\x7d"

/-- the text in front of an attribute that comes after some others -/
def front (l : List Attribute) : Text := decimal a.number ++ " (" ++ l.flatMap (a.text · ++ [' '])

/-- the text behind an attribute that comes before some others -/
def back (l : List Attribute) : Text := l.flatMap ([' '] ++ a.text ·) ++ ")"

/-- the items of an answer for a message -/
def items : List FetchItem :=
  .literal (Text.toOctets (a.front a.before ++ a.text .body)) a.body
    :: .line (Text.toOctets (a.back a.after)) :: a.behind

/-- the text around the literal -/
def about : Text := decimal a.number ++ " (" ++ [' '].intercalate (a.order.map a.text) ++ ")"

variable {a : Told} {t : Attribute} {l l₁ l₂ : List Attribute} {c : Char}

/-! ## the text seen from an attribute -/

theorem about_eq (h : a.order = l₁ ++ t :: l₂) : a.about = a.front l₁ ++ a.text t ++ a.back l₂ := by
  have hjoined := Text.intercalate_append_cons [' '] (a.text t) (l₁.map a.text) (l₂.map a.text)
  rw [← List.map_cons, ← List.map_append, List.flatMap_map, List.flatMap_map] at hjoined
  rw [about, h, hjoined, front, back]
  simp only [List.append_assoc]

/-- every attribute is told once -/
theorem exists_order_eq (a : Told) (t : Attribute) : ∃ l₁ l₂, a.order = l₁ ++ t :: l₂ ∧ t ∉ l₁ ∧ t ∉ l₂ := by
  have hmem : t ∈ a.order := by
    rw [order, a.complete.mem_iff]
    cases t <;> simp
  have hnodup : a.order.Nodup := a.complete.nodup_iff.2 (by decide)
  obtain ⟨l₁, l₂, h⟩ := List.append_of_mem hmem
  rw [h, List.nodup_middle, List.nodup_cons, List.mem_append, not_or] at hnodup
  exact ⟨l₁, l₂, h, hnodup.1.1, hnodup.1.2⟩

end Told

/-! ## characters -/

theorem WrittenDate.text_eq (d : WrittenDate) :
    d.text = d.dayText ++ '-' :: (Date.monthName (d.month + 1) ++ '-' :: (fourDigits d.year ++ ' ' ::
      (twoDigits d.hour ++ ':' :: (twoDigits d.minute ++ ':' :: (twoDigits d.second ++ ' ' ::
        d.offsetText))))) := by
  simp [text]

theorem WrittenDate.forall_mem_text {d : WrittenDate} {p : Char → Bool}
    (hdigit : ∀ c : Char, c.isDigit = true → p c = true)
    (hmonth : ∀ m : Fin 12, (Date.monthName (m + 1)).all p = true) (hblank : p ' ' = true)
    (hcolon : p ':' = true) (hplus : p '+' = true) (hminus : p '-' = true) : ∀ c ∈ d.text, p c = true := by
  have hpadded : ∀ k n : Nat, ∀ c ∈ Text.padLeft k '0' (decimal n), p c = true :=
    fun k n c hc => hdigit c (Text.isDigit_of_mem_padLeft hc)
  have hday : ∀ c ∈ d.dayText, p c = true := by
    simp only [dayText, List.forall_mem_cons]
    refine ⟨?_, hdigit _ (Text.isDigit_digitChar (by omega)), nofun⟩
    split
    · exact hblank
    · exact hdigit _ (Text.isDigit_digitChar (by omega))
  have hsign : p (if d.west then '-' else '+') = true := by
    split
    · exact hminus
    · exact hplus
  simp only [text_eq, offsetText, List.forall_mem_append, List.forall_mem_cons]
  exact ⟨hday, hminus, List.all_eq_true.1 (hmonth d.month), hminus, hpadded 4 _, hblank,
    hpadded 2 _, hcolon, hpadded 2 _, hcolon, hpadded 2 _, hblank, hsign, hpadded 2 _, hpadded 2 _⟩

theorem WrittenDate.quote_not_mem (d : WrittenDate) : '"' ∉ d.text := by
  have hall : ∀ c ∈ d.text, (c != '"') = true := by
    refine WrittenDate.forall_mem_text ?_ (by decide) (by decide) (by decide) (by decide) (by decide)
    exact fun c => Text.forall_digit (p := fun c => (c != '"') = true) (by decide)
  exact fun hc => absurd (hall _ hc) (by decide)

/-- the characters of flags -/
theorem of_mem_isFlag {w : Text} (h : IsFlag w) :
    w ≠ [] ∧ ∀ c ∈ w, c = '\\' ∨ Search.isAtomic c = true := by
  obtain ⟨hne, hchars⟩ := h
  rw [List.all_eq_true] at hchars
  cases w with
  | nil => exact absurd rfl hne
  | cons d w =>
    refine ⟨List.cons_ne_nil d w, fun c hc => ?_⟩
    by_cases hd : d = '\\'
    · rw [if_pos (by rw [hd]; rfl)] at hchars
      rcases List.mem_cons.1 hc with rfl | hc
      · exact .inl hd
      · exact .inr (hchars c hc)
    · rw [if_neg (by simpa using hd)] at hchars
      exact .inr (hchars c hc)

/-- the characters that may stand in the text of an attribute -/
def Attribute.admits (t : Attribute) (c : Char) : Bool :=
  0x20 ≤ c.toNat && c.toNat ≤ 0x7e && (c != '(' || t == .flags) && (c != '"' || t == .date)

namespace Told

variable {a : Told} {t : Attribute} {l : List Attribute} {c : Char}

theorem of_mem_flags (h : c ∈ [' '].intercalate a.flags) :
    c = ' ' ∨ c = '\\' ∨ Search.isAtomic c = true := by
  rcases Text.mem_intercalate h with h | ⟨w, hw, h⟩
  · exact .inl (List.mem_singleton.1 h)
  · exact .inr ((of_mem_isFlag (a.isFlag w hw)).2 c h)

theorem admits_of_isDigit (h : c.isDigit = true) : t.admits c = true := by
  refine Text.forall_digit (p := fun c => t.admits c = true) ?_ h
  cases t <;> decide

theorem admits_of_isAtomic (h : Search.isAtomic c = true) : t.admits c = true := by
  have hmarks : c ≠ '(' ∧ c ≠ '"' := by
    constructor <;>
    · rintro rfl
      exact absurd h (by decide)
  simp only [Search.isAtomic, Bool.and_eq_true, decide_eq_true_eq] at h
  simp [Attribute.admits, hmarks, h.1.2, Nat.le_of_succ_le h.1.1]

/-- the only parentheses stand around the flags, and the only quotes around the date -/
theorem admits_of_mem_text (a : Told) (t : Attribute) : ∀ c ∈ a.text t, t.admits c = true := by
  have hdecimal : ∀ n : Nat, ∀ c ∈ decimal n, t.admits c = true :=
    fun n c hc => admits_of_isDigit (Text.isDigit_of_mem_decimal hc)
  cases t with
  | size =>
    show ∀ c ∈ ("RFC822.SIZE " : Text) ++ decimal a.size, _
    rw [List.forall_mem_append]
    exact ⟨List.all_eq_true.1 (by decide), hdecimal a.size⟩
  | body =>
    show ∀ c ∈ a.part ++ " \x7b" ++ decimal a.body.length ++ "\x7d", _
    simp only [List.forall_mem_append]
    refine ⟨⟨⟨?_, List.all_eq_true.1 (by decide)⟩, hdecimal _⟩, List.all_eq_true.1 (by decide)⟩
    unfold part
    split <;> exact List.all_eq_true.1 (by decide)
  | date =>
    show ∀ c ∈ ("INTERNALDATE \"" : Text) ++ a.date.text ++ "\"", _
    simp only [List.forall_mem_append]
    refine ⟨⟨List.all_eq_true.1 (by decide), ?_⟩, List.all_eq_true.1 (by decide)⟩
    exact WrittenDate.forall_mem_text (fun c hc => admits_of_isDigit hc) (by decide) (by decide) (by decide)
      (by decide) (by decide)
  | flags =>
    show ∀ c ∈ ("FLAGS (" : Text) ++ [' '].intercalate a.flags ++ ")", _
    simp only [List.forall_mem_append]
    refine ⟨⟨List.all_eq_true.1 (by decide), fun c hc => ?_⟩, List.all_eq_true.1 (by decide)⟩
    rcases of_mem_flags hc with rfl | rfl | hc
    · decide
    · decide
    · exact admits_of_isAtomic hc

theorem forall_mem_front {p : Char → Prop} (hdigit : ∀ c : Char, c.isDigit = true → p c)
    (hmarks : p ' ' ∧ p '(') (hl : ∀ t ∈ l, ∀ c ∈ a.text t, p c) : ∀ c ∈ a.front l, p c := by
  rw [front, List.forall_mem_append, List.forall_mem_append]
  refine ⟨⟨fun c hc => hdigit c (Text.isDigit_of_mem_decimal hc), by simpa using hmarks⟩, fun c hc => ?_⟩
  obtain ⟨t, ht, hc⟩ := List.mem_flatMap.1 hc
  rcases List.mem_append.1 hc with hc | hc
  · exact hl t ht c hc
  · rw [List.mem_singleton.1 hc]
    exact hmarks.1

theorem forall_mem_back {p : Char → Prop} (hmarks : p ' ' ∧ p ')') (hl : ∀ t ∈ l, ∀ c ∈ a.text t, p c) :
    ∀ c ∈ a.back l, p c := by
  rw [back, List.forall_mem_append]
  refine ⟨fun c hc => ?_, by simpa using hmarks.2⟩
  obtain ⟨t, ht, hc⟩ := List.mem_flatMap.1 hc
  rcases List.mem_append.1 hc with hc | hc
  · rw [List.mem_singleton.1 hc]
    exact hmarks.1
  · exact hl t ht c hc

/-- a text on one line -/
theorem printable_about (a : Told) : ∀ c ∈ a.about, 0x20 ≤ c.toNat ∧ c.toNat ≤ 0x7e := by
  have htext : ∀ t, ∀ c ∈ a.text t, 0x20 ≤ c.toNat ∧ c.toNat ≤ 0x7e := by
    intro t c hc
    have h := admits_of_mem_text a t c hc
    simp only [Attribute.admits, Bool.and_eq_true, decide_eq_true_eq] at h
    exact h.1.1
  have hdigit : ∀ c : Char, c.isDigit = true → 0x20 ≤ c.toNat ∧ c.toNat ≤ 0x7e :=
    fun c => Text.forall_digit (p := fun c => 0x20 ≤ c.toNat ∧ c.toNat ≤ 0x7e) (by decide)
  have habout : a.about = a.front a.before ++ a.text .body ++ a.back a.after := about_eq rfl
  rw [habout, List.forall_mem_append, List.forall_mem_append]
  exact ⟨⟨forall_mem_front hdigit (by decide) fun t _ => htext t, htext _⟩,
    forall_mem_back (by decide) fun t _ => htext t⟩

/-- a character that stands in the text of one attribute only is not found behind it -/
theorem not_mem_back (hc : ∀ u : Attribute, u.admits c = true → u = t) (hmarks : c ≠ ' ' ∧ c ≠ ')')
    (h : t ∉ l) : c ∉ a.back l := by
  have hback : ∀ d ∈ a.back l, d ≠ c := by
    refine forall_mem_back ⟨hmarks.1.symm, hmarks.2.symm⟩ fun u hu d hd => ?_
    rintro rfl
    have hut : u = t := hc u (admits_of_mem_text a u d hd)
    exact h (hut ▸ hu)
  exact fun hmem => hback c hmem rfl

end Told

end Mailroom.Fetch
