import Mailroom.Codec.QuotedPrintable
import Mailroom.Proofs.Lists

/-!
# Quoted-printable bodies are read back

A line is written octet by octet, each as itself or as an escape, and then cut where no escape is cut.

* `Quoted`            octets and what they are written as; `Quoted.cut`, `Quoted.last` say where that can be
  taken apart;
* `Wrapped`           a line and the lines that it is written in; `exists_wrapped_cutLine` follows the cutting;
* `IsWritten`         the lines of a written body; `IsWritten.ne_marks` tells them from boundary lines;
* `decode_encodeBody` what was written is read back.
-/

namespace Mailroom.QuotedPrintable

variable {l e l' e' r : Octets} {b c d : UInt8}

/-! ## reading octets -/

theorem decodeFrom_self (hb : b ≠ 61) : decodeFrom false (b :: r) = b :: decodeFrom false r := by
  rw [decodeFrom.eq_def]
  simp [hb]

/-- an equals sign at the end of a line joins it to the next one -/
theorem decodeFrom_joined (r : Octets) : decodeFrom false (61 :: 10 :: r) = decodeFrom false r := by
  rw [decodeFrom.eq_def]
  rfl

theorem not_mark_of_hexValue? {x : Nat} (h : hexValue? c = some x) :
    c ≠ 61 ∧ c ≠ 10 ∧ c ≠ 13 ∧ c ≠ 32 ∧ c ≠ 9 := by
  refine ⟨?_, ?_, ?_, ?_, ?_⟩ <;> rintro rfl <;> cases h

/-- an escape is two hexadecimal digits behind an equals sign, and it is read as its octet -/
theorem exists_escape (b : UInt8) :
    ∃ c d x y, escape b = [61, c, d] ∧ hexValue? c = some x ∧ hexValue? d = some y ∧
      UInt8.ofNat (x * 16 + y) = b := by
  have hdigit : ∀ n : Fin 16,
      hexValue? (UInt8.ofNat (if n.val < 10 then 48 + n.val else 55 + n.val)) = some n.val := by decide
  have hb := b.toNat_lt
  have hjoin : b.toNat / 16 * 16 + b.toNat % 16 = b.toNat := by omega
  refine ⟨_, _, _, _, rfl, hdigit ⟨b.toNat / 16, by omega⟩, hdigit ⟨b.toNat % 16, by omega⟩, ?_⟩
  dsimp only
  rw [hjoin, UInt8.ofNat_toNat]

theorem decodeFrom_escape (b : UInt8) (r : Octets) :
    decodeFrom false (escape b ++ r) = b :: decodeFrom false r := by
  obtain ⟨c, d, x, y, hescape, hx, hy, hxy⟩ := exists_escape b
  have hc := not_mark_of_hexValue? hx
  rw [hescape]
  show decodeFrom false (61 :: c :: d :: r) = _
  rw [decodeFrom.eq_def]
  simp [hc, hx, hy, hxy]

/-! ## octets and how they are written -/

/-- octets and what they are written as: themselves or escapes -/
inductive Quoted : Octets → Octets → Prop
  | nil : Quoted [] []
  | self {l e : Octets} (b : UInt8) (hb : b ≠ 61 ∧ b ≠ 10 ∧ b ≠ 13) (h : Quoted l e) :
      Quoted (b :: l) (b :: e)
  | escaped {l e : Octets} (b : UInt8) (h : Quoted l e) : Quoted (b :: l) (escape b ++ e)

theorem quoted_flatMap (l : Octets) : Quoted l (l.flatMap encodeOctet) := by
  induction l with
  | nil => exact .nil
  | cons b l ih =>
    rw [List.flatMap_cons, encodeOctet]
    split
    · refine .self b ⟨?_, ?_, ?_⟩ ih <;> rintro rfl <;> contradiction
    · exact .escaped b ih

theorem Quoted.append (h : Quoted l e) (h' : Quoted l' e') : Quoted (l ++ l') (e ++ e') := by
  induction h with
  | nil => exact h'
  | self b hb _ ih => exact .self b hb ih
  | escaped b _ ih =>
    rw [List.append_assoc]
    exact .escaped b ih

/-- what is written is read back in front of whatever follows -/
theorem Quoted.decodeFrom (h : Quoted l e) (r : Octets) :
    decodeFrom false (e ++ r) = l ++ decodeFrom false r := by
  induction h with
  | nil => rfl
  | self b hb _ ih => rw [List.cons_append, decodeFrom_self hb.1, ih, List.cons_append]
  | escaped b _ ih => rw [List.append_assoc, decodeFrom_escape, ih, List.cons_append]

/-- what is written can be cut wherever no escape is cut; inside an escape stands no equals sign -/
theorem Quoted.cut (h : Quoted l e) {k : Nat}
    (hk : ∀ i, i < k → k < i + 3 → e[i]? = some 61 → e[k]? = some 61) :
    ∃ l₁ l₂, l = l₁ ++ l₂ ∧ Quoted l₁ (e.take k) ∧ Quoted l₂ (e.drop k) := by
  induction h generalizing k with
  | nil => exact ⟨[], [], rfl, by simpa using .nil, by simpa using .nil⟩
  | @self l e b hb h ih =>
    cases k with
    | zero => exact ⟨[], b :: l, rfl, .nil, .self b hb h⟩
    | succ k =>
      obtain ⟨l₁, l₂, rfl, h₁, h₂⟩ := ih fun i hi hik he =>
        hk (i + 1) (Nat.succ_lt_succ hi) (by omega) he
      exact ⟨b :: l₁, l₂, rfl, .self b hb h₁, h₂⟩
  | @escaped l e b h ih =>
    obtain ⟨c, d, x, y, hescape, hx, hy, -⟩ := exists_escape b
    have hc := not_mark_of_hexValue? hx
    have hd := not_mark_of_hexValue? hy
    rw [hescape] at hk
    match k with
    | 0 => exact ⟨[], b :: l, rfl, .nil, .escaped b h⟩
    | 1 => exact absurd (hk 0 (by decide) (by decide) rfl) (by simp [hc.1])
    | 2 => exact absurd (hk 0 (by decide) (by decide) rfl) (by simp [hd.1])
    | k + 3 =>
      obtain ⟨l₁, l₂, rfl, h₁, h₂⟩ := ih (k := k) fun i hi hik he =>
        hk (i + 3) (by omega) (by omega) he
      refine ⟨b :: l₁, l₂, rfl, ?_, ?_⟩
      · rw [hescape]
        show Quoted _ ([61, c, d] ++ e.take k)
        rw [← hescape]
        exact .escaped b h₁
      · rw [hescape]
        exact h₂

theorem Quoted.eq_nil (h : Quoted l []) : l = [] := by
  generalize hnil : [] = e at h
  cases h with
  | nil => rfl
  | self => cases hnil
  | escaped => cases hnil

/-- a blank at the end stands for itself -/
theorem Quoted.last (h : Quoted l e) (he : e.getLast? = some b) (hb : b = 32 ∨ b = 9) :
    ∃ l', l = l' ++ [b] ∧ Quoted l' e.dropLast := by
  induction h with
  | nil => cases he
  | @self l e c hc h ih =>
    rcases eq_or_ne e [] with rfl | hne
    · obtain rfl : c = b := by simpa using he
      rw [h.eq_nil]
      exact ⟨[], rfl, .nil⟩
    · rw [← List.singleton_append, List.getLast?_append_of_ne_nil _ hne] at he
      obtain ⟨l', rfl, hl'⟩ := ih he
      rw [List.dropLast_cons_of_ne_nil hne]
      exact ⟨c :: l', rfl, .self c hc hl'⟩
  | @escaped l e c h ih =>
    rcases eq_or_ne e [] with rfl | hne
    · obtain ⟨c₁, c₂, x, y, hescape, -, hy, -⟩ := exists_escape c
      have hblank := not_mark_of_hexValue? hy
      obtain rfl : c₂ = b := by simpa [hescape] using he
      tauto
    · rw [List.getLast?_append_of_ne_nil _ hne] at he
      obtain ⟨l', rfl, hl'⟩ := ih he
      rw [List.dropLast_append_of_ne_nil hne]
      exact ⟨c :: l', rfl, .escaped c hl'⟩

/-! ## lines -/

/-- a line of a body and the lines that it is written in, joined by equals signs at their ends -/
inductive Wrapped : Octets → List Octets → Prop
  | last {l e : Octets} (h : Quoted l e) : Wrapped l [e]
  | joined {l e l' : Octets} {ls : List Octets} (h : Quoted l e) (h' : Wrapped l' ls) :
      Wrapped (l ++ l') ((e ++ [61]) :: ls)

/-- the last of the lines, with a blank at its end protected -/
theorem exists_wrapped_lastPiece (h : Quoted l e) :
    ∃ ls, lastPiece e ++ [10] = (ls.flatMap fun w => w ++ [10]) ∧ Wrapped l ls := by
  unfold lastPiece
  split
  case h_2 => exact ⟨[e], by simp, .last h⟩
  case h_1 b hlast =>
    split
    case isFalse => exact ⟨[e], by simp, .last h⟩
    case isTrue hb =>
      obtain ⟨l', rfl, hl'⟩ := h.last hlast hb
      have hescape : Quoted [b] (escape b) := by simpa using Quoted.escaped b .nil
      split
      · exact ⟨[e.dropLast ++ escape b], by simp, .last (hl'.append hescape)⟩
      split
      · refine ⟨[e ++ [61], []], by simp, ?_⟩
        have hwrapped := Wrapped.joined h (.last .nil)
        rwa [List.append_nil] at hwrapped
      · exact ⟨[e.dropLast ++ [61], escape b], by simp, .joined hl' (.last hescape)⟩

/-- lines of limited length, none of which cuts an escape -/
theorem exists_wrapped_cutLine (n : Nat) (h : Quoted l e) :
    ∃ ls, cutLine n e ++ [10] = (ls.flatMap fun w => w ++ [10]) ∧ Wrapped l ls := by
  induction n generalizing l e with
  | zero => exact exists_wrapped_lastPiece h
  | succ n ih =>
    have hcut : ∀ k, (∀ i, i < k → k < i + 3 → e[i]? = some 61 → e[k]? = some 61) →
        ∃ ls, e.take k ++ [61, 10] ++ cutLine n (e.drop k) ++ [10] = (ls.flatMap fun w => w ++ [10]) ∧
          Wrapped l ls := by
      intro k hk
      obtain ⟨l₁, l₂, rfl, h₁, h₂⟩ := h.cut hk
      obtain ⟨ls, hls, hwrapped⟩ := ih h₂
      refine ⟨(e.take k ++ [61]) :: ls, ?_, .joined h₁ hwrapped⟩
      rw [List.append_assoc, hls]
      simp
    rw [cutLine]
    split
    · exact exists_wrapped_lastPiece h
    dsimp only
    split
    · rename_i hmark
      exact hcut _ fun _ _ _ _ => hmark
    split
    · rename_i hmark
      exact hcut _ fun _ _ _ _ => hmark
    · rename_i hthird hsecond
      refine hcut _ fun i hi hik he => ?_
      obtain rfl | rfl : i = lineLimit - 3 ∨ i = lineLimit - 2 := by
        simp only [lineLimit] at *
        omega
      · exact absurd he hthird
      · exact absurd he hsecond

/-- the lines that a line is written in are read as that line -/
theorem Wrapped.decodeFrom {ls : List Octets} (h : Wrapped l ls) (r : Octets) :
    decodeFrom false ((ls.flatMap fun w => w ++ [10]) ++ r) = l ++ 10 :: decodeFrom false r := by
  induction h with
  | last h =>
    rw [List.flatMap_singleton, List.append_assoc, h.decodeFrom]
    exact congrArg _ (decodeFrom_self (by decide))
  | @joined l e l' ls h _ ih =>
    have hjoined : QuotedPrintable.decodeFrom false ([61] ++ ([10] ++ ((ls.flatMap fun w => w ++ [10]) ++ r))) =
        l' ++ 10 :: QuotedPrintable.decodeFrom false r := (decodeFrom_joined _).trans ih
    simp only [List.flatMap_cons, List.append_assoc]
    rw [h.decodeFrom, hjoined]

/-- a line of a written body -/
def IsWritten (w : Octets) : Prop := ∃ l e, Quoted l e ∧ (w = e ∨ w = e ++ [61])

theorem Wrapped.isWritten {ls : List Octets} (h : Wrapped l ls) : ∀ w ∈ ls, IsWritten w := by
  induction h with
  | last h => exact List.forall_mem_singleton.2 ⟨_, _, h, .inl rfl⟩
  | joined h _ ih => exact List.forall_mem_cons.2 ⟨⟨_, _, h, .inr rfl⟩, ih⟩

theorem Quoted.isOneLine (h : Quoted l e) : ∀ c ∈ e, c ≠ 10 ∧ c ≠ 13 := by
  induction h with
  | nil => exact nofun
  | self b hb _ ih => exact List.forall_mem_cons.2 ⟨hb.2, ih⟩
  | escaped b _ ih =>
    obtain ⟨c, d, x, y, hescape, hx, hy, -⟩ := exists_escape b
    have hc := not_mark_of_hexValue? hx
    have hd := not_mark_of_hexValue? hy
    rw [hescape]
    refine List.forall_mem_append.2 ⟨?_, ih⟩
    simp [hc, hd]

theorem IsWritten.isOneLine {w : Octets} (h : IsWritten w) : ∀ c ∈ w, c ≠ 10 ∧ c ≠ 13 := by
  obtain ⟨l, e, hquoted, rfl | rfl⟩ := h
  · exact hquoted.isOneLine
  · exact List.forall_mem_append.2 ⟨hquoted.isOneLine, by decide⟩

theorem Quoted.tail (h : Quoted l (b :: e)) (hb : b ≠ 61) : ∃ l', Quoted l' e := by
  generalize hcons : b :: e = e' at h
  cases h with
  | nil => cases hcons
  | self b' hb' h =>
    obtain ⟨rfl, rfl⟩ := List.cons.inj hcons
    exact ⟨_, h⟩
  | escaped b' h => exact absurd (List.cons.inj hcons).1 hb

/-- behind an equals sign stands a digit -/
theorem Quoted.digit (h : Quoted l (61 :: e)) : ∃ c e', e = c :: e' ∧ c ≠ 61 := by
  generalize hcons : 61 :: e = e' at h
  cases h with
  | nil => cases hcons
  | self b' hb' h => exact absurd (List.cons.inj hcons).1.symm hb'.1
  | escaped b' h =>
    obtain ⟨c, d, x, y, hescape, hx, -, -⟩ := exists_escape b'
    rw [hescape] at hcons
    exact ⟨c, _, (List.cons.inj hcons).2, (not_mark_of_hexValue? hx).1⟩

/-- no line of a written body begins with two hyphens and two equals signs -/
theorem IsWritten.ne_marks {w : Octets} (h : IsWritten w) (r : Octets) : w ≠ 45 :: 45 :: 61 :: 61 :: r := by
  have hnot : ∀ {l e t : Octets}, Quoted l e → e = 45 :: 45 :: 61 :: t → ∃ c t', t = c :: t' ∧ c ≠ 61 := by
    rintro l e t hquoted rfl
    obtain ⟨l₁, h₁⟩ := hquoted.tail (by decide)
    obtain ⟨l₂, h₂⟩ := h₁.tail (by decide)
    exact h₂.digit
  rintro rfl
  obtain ⟨l, e, hquoted, he | he⟩ := h
  · obtain ⟨c, t', ht, hc⟩ := hnot hquoted he.symm
    exact hc (List.cons.inj ht).1.symm
  · match e, he with
    | [], he => cases he
    | [_], he => cases he
    | [_, _], he => cases he
    | x :: y :: z :: t, he =>
      simp only [List.cons_append, List.cons.injEq] at he
      obtain ⟨rfl, rfl, rfl, ht⟩ := he
      obtain ⟨c, t', rfl, hc⟩ := hnot hquoted rfl
      exact hc (List.cons.inj ht).1.symm

theorem encodeBody_cons (l : Octets) (ls : List Octets) :
    ∃ ws : List Octets, encodeBody (l :: ls) = (ws.flatMap fun w => w ++ [10]) ++ encodeBody ls ∧ Wrapped l ws := by
  obtain ⟨ws, hws, hwrapped⟩ := exists_wrapped_cutLine (l.flatMap encodeOctet).length (quoted_flatMap l)
  refine ⟨ws, ?_, hwrapped⟩
  rw [encodeBody, List.flatMap_cons, ← hws]
  rfl

/-- a body is written in lines -/
theorem exists_encodeBody (ls : List Octets) :
    ∃ ws : List Octets, encodeBody ls = (ws.flatMap fun w => w ++ [10]) ∧ ∀ w ∈ ws, IsWritten w := by
  induction ls with
  | nil => exact ⟨[], rfl, nofun⟩
  | cons l ls ih =>
    obtain ⟨vs, hvs, hwritten⟩ := ih
    obtain ⟨ws, hws, hwrapped⟩ := encodeBody_cons l ls
    refine ⟨ws ++ vs, ?_, List.forall_mem_append.2 ⟨hwrapped.isWritten, hwritten⟩⟩
    rw [hws, hvs, List.flatMap_append]

/-- **What was written is read back**, each line ended by a line feed. -/
theorem decode_encodeBody (ls : List Octets) : decode (encodeBody ls) = ls.flatMap fun l => l ++ [10] := by
  unfold decode
  induction ls with
  | nil => rfl
  | cons l ls ih =>
    obtain ⟨ws, hws, hwrapped⟩ := encodeBody_cons l ls
    rw [hws, hwrapped.decodeFrom, ih, List.flatMap_cons, List.append_assoc]
    rfl

end Mailroom.QuotedPrintable
