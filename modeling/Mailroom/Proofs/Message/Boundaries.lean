import Mailroom.Proofs.Codec.Base64
import Mailroom.Proofs.Codec.QuotedPrintable
import Mailroom.Proofs.Header.Folding
import Mailroom.Proofs.Message.Lines

/-!
# Boundary lines

* `toMail_append`, `ofMail_toMail`, `toMail_ofMail`   octets as characters and back;
* `opening`, `closing`     the lines around parts, which are read as boundary lines;
* `IsMade`                 boundaries as they are made for new messages;
* `boundaryLine?_base64`, `boundaryLine?_quoted`   encoded lines are no boundary lines;
* `boundaryLine?_closed_chop`   a line is a boundary line whatever ends it.
-/

namespace Mailroom.Message

open Header (Unbroken)
open Lines (IsOneLine IsBreak closed)

variable {boundary : Text} {l e : Octets}

/-! ## octets as texts -/

theorem toMail_append (s t : Text) : Text.toMail (s ++ t) = Text.toMail s ++ Text.toMail t := List.flatMap_append

theorem toMail_ofMail (b : Octets) : Text.toMail (Text.ofMail b) = b := by
  have hself : ∀ x : UInt8, Text.toMail (Text.ofMail [x]) = [x] := Text.forall_octet (by decide +kernel)
  induction b with
  | nil => rfl
  | cons x b ih =>
    have happend : Text.toMail (Text.ofMail (x :: b)) =
        Text.toMail (Text.ofMail [x]) ++ Text.toMail (Text.ofMail b) :=
      toMail_append (Text.ofMail [x]) (Text.ofMail b)
    rw [happend, hself x, ih]
    rfl

theorem toMail_of_ascii {s : Text} (h : ∀ c ∈ s, c.toNat < 128) :
    Text.toMail s = s.map fun c => UInt8.ofNat c.toNat := by
  induction s with
  | nil => rfl
  | cons c s ih =>
    rw [List.forall_mem_cons] at h
    have hraw : Text.rawOctet? c = none := by
      rw [Text.rawOctet?, if_neg (by omega)]
    rw [List.map_cons, ← ih h.2, Text.toMail, List.flatMap_cons, hraw]
    dsimp only
    rw [Utf8.encodeChar_of_ascii h.1]
    rfl

theorem ofMail_toMail {s : Text} (h : ∀ c ∈ s, c.toNat < 128) : Text.ofMail (Text.toMail s) = s := by
  rw [toMail_of_ascii h, Text.ofMail, List.map_map]
  refine (List.map_congr_left fun c hc => ?_).trans (List.map_id s)
  have hnat : (UInt8.ofNat c.toNat).toNat = c.toNat := by
    rw [UInt8.toNat_ofNat', Nat.mod_eq_of_lt (by have := h c hc; omega)]
  have hlow : UInt8.ofNat c.toNat < 128 := by
    rw [UInt8.lt_iff_toNat_lt, hnat]
    exact h c hc
  show (if UInt8.ofNat c.toNat < 128 then Char.ofNat (UInt8.ofNat c.toNat).toNat else _) = c
  rw [if_pos hlow, hnat, Char.ofNat_toNat]

/-- characters that are sent as themselves stand for themselves only -/
theorem le_of_rawOctet? {c : Char} {b : UInt8} (h : Text.rawOctet? c = some b) : 128 ≤ b.toNat := by
  unfold Text.rawOctet? at h
  split at h
  · obtain rfl := Option.some.inj h
    rw [UInt8.toNat_ofNat']
    omega
  · cases h

theorem isOneLine_of_unbroken {s : Text} (h : Unbroken s) : IsOneLine (Text.toMail s) := by
  intro b hb
  obtain ⟨c, hc, hb⟩ := List.mem_flatMap.1 hb
  cases hraw : Text.rawOctet? c with
  | some x =>
    rw [hraw, List.mem_singleton] at hb
    have hlow := hb ▸ le_of_rawOctet? hraw
    constructor <;> rintro rfl <;> exact absurd hlow (by decide)
  | none =>
    rw [hraw] at hb
    obtain ⟨hfeed, hreturn⟩ := h c hc
    constructor <;> rintro rfl
    · exact hfeed (Lines.lineFeed_mem.1 hb)
    · exact hreturn (Lines.return_mem.1 hb)

/-- a line of octets is a line of characters -/
theorem unbroken_ofMail (h : IsOneLine l) : Unbroken (Text.ofMail l) := by
  intro c hc
  obtain ⟨x, hx, rfl⟩ := List.mem_map.1 hc
  have hback : Text.toMail [if x < 128 then Char.ofNat x.toNat else Text.rawOctet x] = [x] := toMail_ofMail [x]
  constructor
  · intro hfeed
    rw [hfeed] at hback
    exact (h x hx).1 (List.cons.inj hback).1.symm
  · intro hreturn
    rw [hreturn] at hback
    exact (h x hx).2 (List.cons.inj hback).1.symm

theorem ofMail_closed {s : Text} (h : ∀ c ∈ s, c.toNat < 128) :
    Text.ofMail (closed (Text.toMail s)) = s ++ ['\n'] := by
  have happend : Text.ofMail (closed (Text.toMail s)) = Text.ofMail (Text.toMail s) ++ ['\n'] := List.map_append
  rw [happend, ofMail_toMail h]

/-! ## what follows a text -/

variable {s t w : Text}

theorem mem_of_after? {r : Text} {c : Char} (h : Text.after? w s = some r) (hc : c ∈ r) : c ∈ s :=
  Text.after?_eq_some.1 h ▸ List.mem_append_right w hc

/-! ## boundary lines -/

/-- the line in front of a part -/
def opening (boundary : Text) : Octets := Text.toMail ("--" ++ boundary)

/-- the line behind the last part -/
def closing (boundary : Text) : Octets := Text.toMail ("--" ++ boundary ++ "--")

theorem boundaryLine?_opening (h : ∀ c ∈ boundary, c.toNat < 128) :
    boundaryLine? boundary (closed (opening boundary)) = some .opening := by
  have hascii : ∀ c ∈ ("--" ++ boundary : Text), c.toNat < 128 := List.forall_mem_append.2 ⟨by decide, h⟩
  unfold boundaryLine? opening
  rw [ofMail_closed hascii, Text.after?_eq_some.2 rfl]
  rfl

theorem boundaryLine?_closing (h : ∀ c ∈ boundary, c.toNat < 128) :
    boundaryLine? boundary (closed (closing boundary)) = some .closing := by
  have hascii : ∀ c ∈ ("--" ++ boundary ++ "--" : Text), c.toNat < 128 :=
    List.forall_mem_append.2 ⟨List.forall_mem_append.2 ⟨by decide, h⟩, by decide⟩
  unfold boundaryLine? closing
  rw [ofMail_closed hascii, List.append_assoc, Text.after?_eq_some.2 rfl]
  rfl

/-- a boundary line begins with two hyphens and the boundary -/
theorem exists_of_boundaryLine? (h : boundaryLine? boundary l ≠ none) :
    ∃ r, l = Text.toMail ("--" ++ boundary) ++ r := by
  unfold boundaryLine? at h
  cases hafter : Text.after? ("--" ++ boundary) (Text.ofMail l) with
  | none =>
    rw [hafter] at h
    exact absurd rfl h
  | some r => exact ⟨Text.toMail r, by rw [← toMail_append, ← Text.after?_eq_some.1 hafter, toMail_ofMail]⟩

/-! ## lines that are no boundary lines -/

/-- a boundary as it is made for a new message: equals signs around 19 digits -/
def IsMade (boundary : Text) : Prop :=
  ∃ digits : Text, digits.length = 19 ∧ (∀ c ∈ digits, c.isDigit = true) ∧
    boundary = List.replicate 15 '=' ++ digits ++ ['=', '=']

theorem IsMade.visible (h : IsMade boundary) : ∀ c ∈ boundary, 33 ≤ c.toNat ∧ c.toNat ≤ 126 := by
  obtain ⟨digits, -, hdigits, rfl⟩ := h
  have hdigit : ∀ c ∈ digits, 33 ≤ c.toNat ∧ c.toNat ≤ 126 := fun c hc =>
    Text.forall_digit (p := fun c => 33 ≤ c.toNat ∧ c.toNat ≤ 126) (by decide) (hdigits c hc)
  refine List.forall_mem_append.2 ⟨List.forall_mem_append.2 ⟨fun c hc => ?_, hdigit⟩, by decide⟩
  rw [List.eq_of_mem_replicate hc]
  decide

theorem IsMade.unbroken (h : IsMade boundary) : Unbroken boundary :=
  Header.unbroken_of_printable fun c hc => by
    have := h.visible c hc
    omega

/-- no line in base 64 is a boundary line -/
theorem boundaryLine?_base64 (h : ∀ c ∈ l, Base64.IsDigit c) : boundaryLine? boundary (closed l) = none := by
  cases l with
  | nil => exact boundaryLine?_of_head (by decide)
  | cons c l => exact boundaryLine?_of_head (h c List.mem_cons_self).ne.2.2

/-- no line of a quoted-printable body is a boundary line -/
theorem boundaryLine?_quoted (hboundary : IsMade boundary) (h : QuotedPrintable.IsWritten l) :
    boundaryLine? boundary (closed l) = none := by
  by_contra hne
  obtain ⟨digits, -, -, rfl⟩ := hboundary
  obtain ⟨r, hr⟩ := exists_of_boundaryLine? hne
  obtain ⟨t, ht⟩ : ∃ t, closed l = 45 :: 45 :: 61 :: 61 :: t := by
    refine ⟨Text.toMail (List.replicate 13 '=' ++ digits ++ ['=', '=']) ++ r, ?_⟩
    have hfront : ("--" ++ (List.replicate 15 '=' ++ digits ++ ['=', '=']) : Text) =
        "--==" ++ (List.replicate 13 '=' ++ digits ++ ['=', '=']) := rfl
    rw [hr, hfront, toMail_append, List.append_assoc]
    rfl
  match l, ht with
  | [], ht => cases ht
  | [_], ht => cases ht
  | [_, _], ht => cases ht
  | [_, _, _], ht => cases ht
  | a :: b :: c :: d :: l, ht =>
    simp only [closed, List.cons_append, List.cons.injEq] at ht
    obtain ⟨rfl, rfl, rfl, rfl, -⟩ := ht
    exact h.ne_marks l rfl

/-! ## line breaks of any kind -/

/-- a blank behind a boundary -/
def isBoundaryBlank (c : Char) : Bool := c == ' ' || c == '\t'

/-- whether a text ends here, but for blanks and a line break -/
def isEnd (s : Text) : Bool :=
  let t := s.dropWhile isBoundaryBlank
  t.isEmpty || t == ['\n'] || t == ['\r'] || t == ['\r', '\n']

/-- the characters of a line break, or none -/
def IsEnding (t : Text) : Prop := t = ['\r', '\n'] ∨ t = ['\r'] ∨ t = ['\n'] ∨ t = []

theorem isEnd_append (hs : Unbroken s) (ht : IsEnding t) : isEnd (s ++ t) = s.all isBoundaryBlank := by
  have hblank : t.dropWhile isBoundaryBlank = t := by obtain rfl | rfl | rfl | rfl := ht <;> rfl
  rcases all_or_stop isBoundaryBlank s with hall | ⟨a, c, r, rfl, ha, hc⟩
  · rw [isEnd, List.dropWhile_append_of_pos hall, hblank, List.all_eq_true.2 hall]
    obtain rfl | rfl | rfl | rfl := ht <;> rfl
  · have hbreak := hs c (List.mem_append_right a List.mem_cons_self)
    have hstop : (a ++ c :: r).all isBoundaryBlank = false := by simp [hc]
    rw [hstop, isEnd, List.append_assoc, List.cons_append, dropWhile_stop ha hc]
    simp [hbreak]

/-- a text in front of a line break is there with the line break or without it -/
theorem after?_append_ending (hw : Unbroken w) (ht : IsEnding t) :
    Text.after? w (s ++ t) = (Text.after? w s).map (· ++ t) := by
  by_cases hprefix : w <+: s
  · obtain ⟨r, rfl⟩ := hprefix
    rw [Text.after?_eq_some.2 (List.append_assoc w r t), Text.after?_eq_some.2 rfl]
    rfl
  -- a text that reached into the line break would hold a character of it
  have hprefix' : ¬w <+: s ++ t := by
    intro h
    rcases Nat.le_total w.length s.length with hshort | hlong
    · exact hprefix (List.prefix_of_prefix_length_le h (List.prefix_append s t) hshort)
    · obtain ⟨u, rfl⟩ := List.prefix_of_prefix_length_le (List.prefix_append s t) h hlong
      rw [List.prefix_append_right_inj] at h
      cases u with
      | nil => simp at hprefix
      | cons c u =>
        have hc := hw c (List.mem_append_right s List.mem_cons_self)
        have hmem := h.subset List.mem_cons_self
        obtain rfl | rfl | rfl | rfl := ht <;> simp [hc] at hmem
  rw [Text.after?, if_neg (by rwa [List.isPrefixOf_iff_prefix]), Text.after?,
    if_neg (by rwa [List.isPrefixOf_iff_prefix])]
  rfl

/-- what a line is to a body in several parts, without its line break -/
def boundaryText? (boundary s : Text) : Option BoundaryLine :=
  match Text.after? ("--" ++ boundary) s with
  | none => none
  | some r =>
    match Text.after? "--" r with
    | some r' =>
      if r'.all isBoundaryBlank then some .closing else if r.all isBoundaryBlank then some .opening else none
    | none => if r.all isBoundaryBlank then some .opening else none

/-- the kind of a line break does not matter -/
theorem boundaryLine?_append (hboundary : Unbroken boundary) (hl : IsOneLine l) (he : IsBreak e) :
    boundaryLine? boundary (l ++ e) = boundaryText? boundary (Text.ofMail l) := by
  have hending : IsEnding (Text.ofMail e) := by
    obtain rfl | rfl | rfl | rfl := he
    · exact .inl rfl
    · exact .inr (.inl rfl)
    · exact .inr (.inr (.inl rfl))
    · exact .inr (.inr (.inr rfl))
  have hsplit : Text.ofMail (l ++ e) = Text.ofMail l ++ Text.ofMail e := List.map_append
  have hfront : Unbroken ("--" ++ boundary : Text) := List.forall_mem_append.2 ⟨by decide, hboundary⟩
  have hunbroken := unbroken_ofMail hl
  unfold boundaryLine? boundaryText?
  rw [hsplit, after?_append_ending hfront hending]
  cases hafter : Text.after? ("--" ++ boundary) (Text.ofMail l) with
  | none => rfl
  | some r =>
    have hr : Unbroken r := fun c hc => hunbroken c (mem_of_after? hafter hc)
    dsimp only [Option.map_some]
    rw [after?_append_ending (w := "--") (by decide) hending]
    cases hafter' : Text.after? "--" r with
    | none =>
      show (if isEnd (r ++ Text.ofMail e) then some BoundaryLine.opening else none) = _
      rw [isEnd_append hr hending]
    | some r' =>
      have hr' : Unbroken r' := fun c hc => hr c (mem_of_after? hafter' hc)
      show (if isEnd (r' ++ Text.ofMail e) then some BoundaryLine.closing
        else if isEnd (r ++ Text.ofMail e) then some BoundaryLine.opening else none) = _
      rw [isEnd_append hr hending, isEnd_append hr' hending]

/-- a line is a boundary line whatever ends it -/
theorem boundaryLine?_closed_chop {b : Octets} (hboundary : Unbroken boundary) (hl : l ∈ Lines.ofOctets b) :
    boundaryLine? boundary (closed (Lines.chop l)) = boundaryLine? boundary l := by
  obtain ⟨l', e, rfl, hone, he⟩ := Lines.exists_of_mem_ofOctets hl
  rw [Lines.chop_append hone he, boundaryLine?_append hboundary hone he, closed,
    boundaryLine?_append hboundary hone (.inr (.inr (.inl rfl)))]

end Mailroom.Message
