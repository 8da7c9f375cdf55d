import Mailroom.Proofs.Json.Grammar
import Mailroom.Proofs.Lists
import Mailroom.Proofs.Outcome
import Mailroom.Proofs.Text.Decimal
import Mailroom.Proofs.Text.Pieces
import Mathlib.Data.List.TakeWhile

/-!
# Values without values inside are read as they are written

* `quotedText_eq_ok`   texts are read exactly as they are written;
* `number_integer`, `number_decimal`, `spells_of_number`   and so are numbers, in front of what does not
  go on with one (`Closed`);
* `leaf_append`, `spells_of_leaf`   and all values without values inside;
* `leaf_ne_tooDeep`    reading them takes no room.
-/

namespace Mailroom.Json

/-! ## escapes -/

section
variable {ds q r s t es : Text} {n m k opened : Nat} {x : Char}

theorem IsUnit.length (h : IsUnit ds n) : ds.length = 4 := by
  obtain ⟨a, b, c, d, rfl, -⟩ := h
  rfl

theorem IsUnit.unique (hn : IsUnit ds n) (hm : IsUnit ds m) : n = m := by
  obtain ⟨a, b, c, d, rfl, hn⟩ := hn
  obtain ⟨a', b', c', d', heq, hm⟩ := hm
  cases heq
  exact Option.some.inj (hn.symm.trans hm)

theorem unicode?_of_isUnit (h : IsUnit ds n) (hr : r ≠ []) : unicode? ('u' :: (ds ++ r)) = some n := by
  obtain ⟨a, b, c, d, rfl, hn⟩ := h
  obtain ⟨e, r, rfl⟩ := List.exists_cons_of_ne_nil hr
  exact hn

theorem unicode?_eq_some (h : unicode? q = some n) :
    ∃ ds r, q = 'u' :: (ds ++ r) ∧ r ≠ [] ∧ IsUnit ds n := by
  unfold unicode? at h
  split at h
  · rename_i a b c d e r
    exact ⟨[a, b, c, d], e :: r, rfl, List.cons_ne_nil e r, a, b, c, d, rfl, h⟩
  · cases h

theorem SpellsText.ne_nil (h : SpellsText s t) : t ≠ [] := by
  cases h <;> exact List.cons_ne_nil _ _

theorem Escaped.eq_unit (h : Escaped x es t) (hu : es.head? = some 'u') :
    ∃ ds n es', es = 'u' :: (ds ++ es') ∧ IsUnit ds n := by
  cases h with
  | letter hx =>
    cases hu
    cases hx
  | unit hn _ => exact ⟨_, _, [], by rw [List.append_nil], hn⟩
  | pair hn _ _ _ => exact ⟨_, _, _, rfl, hn⟩

theorem Escaped.ne_nil (h : Escaped x es t) : es ≠ [] := by
  cases h <;> exact List.cons_ne_nil _ _

/-- an escape in a text is whole -/
theorem SpellsText.exists_unit (h : SpellsText s t) (hr : t ++ r = '\\' :: 'u' :: q) :
    ∃ ds n t', t = '\\' :: 'u' :: (ds ++ t') ∧ t' ≠ [] ∧ IsUnit ds n := by
  cases h with
  | close => cases hr
  | plain hc _ => exact absurd (List.cons.inj hr).1 hc.2.1
  | @escape x es s t he h =>
    obtain ⟨e, es, rfl⟩ := List.exists_cons_of_ne_nil he.ne_nil
    obtain rfl : e = 'u' := by simpa using congrArg (·.drop 1 |>.head?) hr
    obtain ⟨ds, n, es', heq, hn⟩ := he.eq_unit rfl
    obtain rfl : es = ds ++ es' := (List.cons.inj heq).2
    refine ⟨ds, n, es' ++ t, by rw [List.cons_append, List.append_assoc], ?_, hn⟩
    exact List.append_ne_nil_of_right_ne_nil _ h.ne_nil

theorem BeginsLow.append (h : BeginsLow t) (r : Text) : BeginsLow (t ++ r) := by
  obtain ⟨ds, n, q, rfl, hq, hn, hlow⟩ := h
  exact ⟨ds, n, q ++ r, by simp, List.append_ne_nil_of_left_ne_nil hq r, hn, hlow⟩

/-- a number that is not joined with another one -/
theorem joined_alone (ht : SpellsText s t) (halone : isHigh n = true → ¬BeginsLow t) :
    joined n (t ++ r) = .ok (charOf n, 5) := by
  unfold joined
  split
  · rename_i q hhigh heq
    obtain ⟨ds, m, t', rfl, ht', hm⟩ := ht.exists_unit heq
    have hq : q = ds ++ (t' ++ r) := by simpa using heq.symm
    rw [hq, unicode?_of_isUnit hm (List.append_ne_nil_of_left_ne_nil ht' r)]
    have hlow : ¬isLow m = true := fun hlow => halone hhigh ⟨ds, m, t', rfl, ht', hm, hlow⟩
    simp [hlow]
  · rfl

theorem joined_pair (hm : IsUnit ds m) (hhigh : isHigh n = true) (hlow : isLow m = true) (hr : r ≠ []) :
    joined n ('\\' :: 'u' :: (ds ++ r)) = .ok (ofPair n m, 11) := by
  have hlength : ¬(ds ++ r).length < 5 := by
    have hpos := List.length_pos_of_ne_nil hr
    rw [List.length_append, hm.length]
    omega
  simp only [joined, hhigh]
  rw [if_neg hlength, unicode?_of_isUnit hm hr]
  simp [hlow]

theorem joined_eq_ok (h : joined n r = .ok (x, k)) :
    (k = 5 ∧ x = charOf n ∧ (isHigh n = true → ¬BeginsLow r)) ∨
      ∃ ds m r', k = 11 ∧ x = ofPair n m ∧ r = '\\' :: 'u' :: (ds ++ r') ∧ IsUnit ds m ∧
        isHigh n = true ∧ isLow m = true := by
  unfold joined at h
  split at h
  -- the first half of a pair: a second one is told by its five characters behind the backslash
  · rename_i q hhigh
    split at h
    · rename_i hshort
      obtain ⟨rfl, rfl⟩ := Prod.mk.inj (Except.ok.inj h)
      refine .inl ⟨rfl, rfl, fun _ hlow => ?_⟩
      obtain ⟨ds, m, r', heq, hr', hm, -⟩ := hlow
      have hlength := congrArg List.length (List.cons.inj (List.cons.inj heq).2).2
      have hpos := List.length_pos_of_ne_nil hr'
      rw [List.length_append, hm.length] at hlength
      omega
    · split at h
      · cases h
      · rename_i m hm
        obtain ⟨ds, r', heq, hr', hunit⟩ := unicode?_eq_some hm
        obtain rfl : q = ds ++ r' := (List.cons.inj heq).2
        split at h
        · rename_i hlow
          obtain ⟨rfl, rfl⟩ := Prod.mk.inj (Except.ok.inj h)
          exact .inr ⟨ds, m, r', rfl, rfl, rfl, hunit, hhigh, hlow⟩
        · rename_i hlow
          obtain ⟨rfl, rfl⟩ := Prod.mk.inj (Except.ok.inj h)
          refine .inl ⟨rfl, rfl, fun _ hbegins => hlow ?_⟩
          obtain ⟨ds', m', q', heq, -, hm', hlow'⟩ := hbegins
          have hds : ds ++ r' = ds' ++ q' := by simpa using heq
          obtain rfl := List.append_inj_left hds (hunit.length.trans hm'.length.symm)
          rwa [hunit.unique hm']
  · rename_i hno
    obtain ⟨rfl, rfl⟩ := Prod.mk.inj (Except.ok.inj h)
    refine .inl ⟨rfl, rfl, fun hhigh hlow => ?_⟩
    obtain ⟨ds, m, r', rfl, -⟩ := hlow
    exact hno _ hhigh rfl

theorem escape_unit (hn : IsUnit ds n) (hr : r ≠ []) : escape opened ('u' :: (ds ++ r)) = joined n r := by
  have hdrop : ('u' :: (ds ++ r)).drop 5 = r := by
    rw [List.drop_succ_cons, ← hn.length, List.drop_left]
  unfold escape
  rw [unicode?_of_isUnit hn hr, hdrop]
  rfl

theorem escape_of_escaped (he : Escaped x es t) (ht : SpellsText s t) (r : Text) :
    escape opened (es ++ (t ++ r)) = .ok (x, es.length) := by
  have hmore : t ++ r ≠ [] := List.append_ne_nil_of_left_ne_nil ht.ne_nil r
  cases he with
  | @letter c _ _ hx =>
    unfold escape
    rw [List.singleton_append]
    split
    · rename_i heq
      cases heq
    · rename_i heq
      cases heq
      cases hx
    · rename_i heq
      cases heq
      rw [hx]
      rfl
  | unit hn halone =>
    rw [List.cons_append, escape_unit hn hmore, joined_alone ht halone, List.length_cons, hn.length]
  | @pair ds ds' _ n m hn hm hhigh hlow =>
    have hassoc : 'u' :: (ds ++ '\\' :: 'u' :: ds') ++ (t ++ r)
        = 'u' :: (ds ++ ('\\' :: 'u' :: (ds' ++ (t ++ r)))) := by simp
    rw [hassoc, escape_unit hn (List.cons_ne_nil _ _), joined_pair hm hhigh hlow hmore]
    simp [hn.length, hm.length]

theorem escaped_of_escape (h : escape opened (es ++ (t ++ r)) = .ok (x, es.length)) : Escaped x es t := by
  unfold escape at h
  split at h
  · cases h
  · rename_i q hq
    split at h
    · cases h
    · rename_i n hn
      obtain ⟨ds, q', heq, hq', hunit⟩ := unicode?_eq_some hn
      have hdrop : (es ++ (t ++ r)).drop 5 = q' := by
        rw [heq, List.drop_succ_cons, ← hunit.length, List.drop_left]
      rw [hdrop] at h
      rcases joined_eq_ok h with ⟨hk, rfl, halone⟩ | ⟨ds', m, r', hk, hx, rfl, hm, hhigh, hlow⟩
      · have hassoc : 'u' :: (ds ++ q') = ('u' :: ds) ++ q' := rfl
        have hlength : es.length = ('u' :: ds).length := by rw [hk, List.length_cons, hunit.length]
        obtain ⟨rfl, rfl⟩ := List.append_inj (heq.trans hassoc) hlength
        exact .unit hunit fun hhigh hlow => halone hhigh (hlow.append r)
      · have hassoc : 'u' :: (ds ++ '\\' :: 'u' :: (ds' ++ r'))
            = ('u' :: (ds ++ '\\' :: 'u' :: ds')) ++ r' := by simp
        have hlength : es.length = ('u' :: (ds ++ '\\' :: 'u' :: ds')).length := by
          rw [hk, List.length_cons, List.length_append, hunit.length, List.length_cons, List.length_cons,
            hm.length]
        obtain rfl := List.append_inj_left (heq.trans hassoc) hlength
        rw [hx]
        exact .pair hunit hm hhigh hlow
  · rename_i c q hq
    split at h
    · rename_i hx
      obtain ⟨rfl, hk⟩ := Prod.mk.inj (Except.ok.inj h)
      obtain ⟨e, rfl⟩ := List.length_eq_one_iff.1 hk.symm
      cases hq
      exact .letter hx
    · cases h

/-! ## texts -/

theorem textFrom_append (opened : Nat) (a q : Text) : textFrom opened a.length (a ++ q) = textFrom opened 0 q := by
  induction a with
  | nil => rfl
  | cons c a ih => exact ih

theorem push_eq_ok {p : Read Text} (h : push x p = .ok (s, r)) : ∃ s', p = .ok (s', r) ∧ s = x :: s' := by
  obtain ⟨⟨s', r'⟩, hp, heq⟩ := map_eq_ok.1 h
  obtain ⟨rfl, rfl⟩ := Prod.mk.inj heq
  exact ⟨s', hp, rfl⟩

theorem textFrom_of_spells (h : SpellsText s t) (opened : Nat) (r : Text) :
    textFrom opened 0 (t ++ r) = .ok (s, r) := by
  induction h with
  | close => rfl
  | plain hc _ ih =>
    rw [List.cons_append, textFrom, if_neg hc.1, if_neg hc.2.1, if_neg (not_lt.2 hc.2.2), ih]
    rfl
  | escape he h ih =>
    rw [List.cons_append, List.append_assoc, textFrom, if_neg (by decide), if_pos rfl,
      escape_of_escaped he h r]
    simp only [textFrom_append, ih]
    rfl

/-- behind the characters skipped stands what the text is written as -/
theorem spells_of_textFrom (h : textFrom opened k q = .ok (s, r)) :
    ∃ a t, q = a ++ (t ++ r) ∧ a.length = k ∧ SpellsText s t := by
  induction q generalizing k s with
  | nil => cases k <;> cases h
  | cons c q ih =>
    cases k with
    | succ k =>
      obtain ⟨a, t, rfl, rfl, ht⟩ := ih h
      exact ⟨c :: a, t, rfl, rfl, ht⟩
    | zero =>
      rw [textFrom] at h
      split at h
      · rename_i hc
        obtain ⟨rfl, rfl⟩ := Prod.mk.inj (Except.ok.inj h)
        exact ⟨[], ['"'], by rw [hc]; rfl, rfl, .close⟩
      · rename_i hclose
        split at h
        · rename_i hc
          split at h
          · rename_i x n hx
            obtain ⟨s', htail, rfl⟩ := push_eq_ok h
            obtain ⟨a, t, rfl, rfl, ht⟩ := ih htail
            refine ⟨[], '\\' :: (a ++ t), ?_, rfl, .escape (escaped_of_escape hx) ht⟩
            rw [hc, List.nil_append, List.cons_append, List.append_assoc]
          · cases h
        · rename_i hback
          split at h
          · cases h
          · rename_i hcontrol
            obtain ⟨s', htail, rfl⟩ := push_eq_ok h
            obtain ⟨a, t, rfl, hnil, ht⟩ := ih htail
            obtain rfl := List.eq_nil_of_length_eq_zero hnil
            exact ⟨[], c :: t, rfl, rfl, .plain ⟨hclose, hback, not_lt.1 hcontrol⟩ ht⟩

theorem quotedText_eq_ok : quotedText q = .ok (s, r) ↔ ∃ t, q = t ++ r ∧ SpellsText s t := by
  constructor
  · intro h
    obtain ⟨a, t, rfl, hnil, ht⟩ := spells_of_textFrom h
    obtain rfl := List.eq_nil_of_length_eq_zero hnil
    exact ⟨t, rfl, ht⟩
  · rintro ⟨t, rfl, ht⟩
    exact textFrom_of_spells ht _ r

end

/-! ## numbers -/

/-- a text that does not go on with a value in front of it: it is at its end, or goes on with a blank, a
comma or a closing bracket -/
def Closed (r : Text) : Prop := ∀ c ∈ r.head?, isBlank c = true ∨ c = ',' ∨ c = ']' ∨ c = '\x7d'

section
variable {c : Char} {ds q r s t places : Text} {e : Int} {negative : Bool}

theorem closed_nil : Closed [] := nofun

theorem closed_cons : Closed (c :: r) ↔ isBlank c = true ∨ c = ',' ∨ c = ']' ∨ c = '\x7d' := by
  simp [Closed]

theorem not_closed_append (h : ¬Closed t) (r : Text) : ¬Closed (t ++ r) := by
  cases t with
  | nil => exact absurd closed_nil h
  | cons c t => exact h

theorem someDigits?_append (h : IsDigits ds) (hr : ∀ c ∈ r.head?, c.isDigit = false) :
    someDigits? (ds ++ r) = some (ds, r) := by
  rw [someDigits?, takeWhile_append_of_head h.2 hr, dropWhile_append_of_head h.2 hr, if_neg (by simpa using h.1)]

theorem someDigits?_eq_some (h : someDigits? s = some (ds, r)) : IsDigits ds ∧ s = ds ++ r := by
  unfold someDigits? at h
  split at h
  · cases h
  · rename_i hne
    obtain ⟨rfl, rfl⟩ := Prod.mk.inj (Option.some.inj h)
    refine ⟨⟨by simpa using hne, fun c => List.mem_takeWhile_imp⟩, List.takeWhile_append_dropWhile.symm⟩

theorem IsDigits.exists_cons (h : IsDigits ds) : ∃ c ds', ds = c :: ds' ∧ c.isDigit = true := by
  obtain ⟨c, ds', rfl⟩ := List.exists_cons_of_ne_nil h.1
  exact ⟨c, ds', rfl, h.2 c List.mem_cons_self⟩

theorem wholePart?_append (h : IsWhole ds) (hr : ∀ c ∈ r.head?, c.isDigit = false) :
    wholePart? (ds ++ r) = some (ds, r) := by
  unfold wholePart?
  split
  · rename_i r' heq
    obtain ⟨c, ds', rfl, -⟩ := h.1.exists_cons
    obtain rfl : c = '0' := (List.cons.inj heq).1
    cases h.2 rfl
    cases heq
    rfl
  · exact someDigits?_append h.1 hr

theorem wholePart?_eq_some (h : wholePart? s = some (ds, r)) : IsWhole ds ∧ s = ds ++ r := by
  unfold wholePart? at h
  split at h
  · obtain ⟨rfl, rfl⟩ := Prod.mk.inj (Option.some.inj h)
    exact ⟨⟨⟨List.cons_ne_nil _ _, by simp⟩, fun _ => rfl⟩, rfl⟩
  · rename_i hzero
    obtain ⟨hds, rfl⟩ := someDigits?_eq_some h
    refine ⟨⟨hds, fun h0 => ?_⟩, rfl⟩
    obtain ⟨c, ds', rfl, -⟩ := hds.exists_cons
    cases h0
    exact absurd rfl (hzero _)

theorem pointPart_append (h : IsDigits ds) (hr : ∀ c ∈ r.head?, c.isDigit = false) :
    pointPart ('.' :: (ds ++ r)) = some (ds, r) :=
  someDigits?_append h hr

theorem pointPart_eq_none (hr : ∀ c ∈ r.head?, c ≠ '.') : pointPart r = none := by
  unfold pointPart
  split
  · exact absurd rfl (hr _ rfl)
  · rfl

theorem pointPart_eq_some (h : pointPart s = some (places, r)) :
    ∃ t, SpellsPlaces places t ∧ t ≠ [] ∧ s = t ++ r := by
  unfold pointPart at h
  split at h
  · obtain ⟨hds, rfl⟩ := someDigits?_eq_some h
    exact ⟨_, .point hds, List.cons_ne_nil _ _, rfl⟩
  · cases h

theorem exponentPart_append (ht : SpellsExponent e t) (hne : t ≠ []) (hr : ∀ c ∈ r.head?, c.isDigit = false) :
    exponentPart (t ++ r) = some (e, r) := by
  cases ht with
  | none => exact absurd rfl hne
  | up hc hplus h =>
    have hdigits := someDigits?_append h hr
    obtain ⟨d, ds, rfl, hd⟩ := h.exists_cons
    have hminus : d ≠ '-' := by rintro rfl; cases hd
    have hplus' : d ≠ '+' := by rintro rfl; cases hd
    rcases hc with rfl | rfl <;> rcases hplus with rfl | rfl <;>
      simp_all [exponentPart]
  | down hc h =>
    have hdigits := someDigits?_append h hr
    rcases hc with rfl | rfl <;> simp [exponentPart, hdigits]

theorem exponentPart_eq_none (hr : ∀ c ∈ r.head?, c ≠ 'e' ∧ c ≠ 'E') : exponentPart r = none := by
  unfold exponentPart
  split
  all_goals first | rfl | exact absurd rfl (hr _ rfl).1 | exact absurd rfl (hr _ rfl).2

theorem exponentPart_eq_some (h : exponentPart s = some (e, r)) :
    ∃ t, SpellsExponent e t ∧ t ≠ [] ∧ s = t ++ r := by
  have hsigned {sign : Int} {q : Text}
      (h : ((someDigits? q).map fun p => (sign * (naturalOf p.1 : Int), p.2)) = some (e, r)) :
      ∃ ds, IsDigits ds ∧ e = sign * (naturalOf ds : Int) ∧ q = ds ++ r := by
    obtain ⟨⟨ds, r'⟩, hds, heq⟩ := Option.map_eq_some_iff.1 h
    obtain ⟨rfl, rfl⟩ := Prod.mk.inj heq
    exact ⟨ds, (someDigits?_eq_some hds).1, rfl, (someDigits?_eq_some hds).2⟩
  have hdown {c : Char} {q : Text} (hc : c = 'e' ∨ c = 'E')
      (h : ((someDigits? q).map fun p => (-1 * (naturalOf p.1 : Int), p.2)) = some (e, r)) :
      ∃ t, SpellsExponent e t ∧ t ≠ [] ∧ c :: '-' :: q = t ++ r := by
    obtain ⟨ds, hds, rfl, rfl⟩ := hsigned h
    rw [neg_one_mul]
    exact ⟨_, .down hc hds, List.cons_ne_nil _ _, rfl⟩
  have hup {c : Char} {plus q : Text} (hc : c = 'e' ∨ c = 'E') (hplus : plus = [] ∨ plus = ['+'])
      (h : ((someDigits? q).map fun p => (1 * (naturalOf p.1 : Int), p.2)) = some (e, r)) :
      ∃ t, SpellsExponent e t ∧ t ≠ [] ∧ c :: (plus ++ q) = t ++ r := by
    obtain ⟨ds, hds, rfl, rfl⟩ := hsigned h
    rw [one_mul]
    exact ⟨_, .up hc hplus hds, List.cons_ne_nil _ _, by rw [List.cons_append, List.append_assoc]⟩
  unfold exponentPart at h
  split at h
  · exact hdown (.inl rfl) h
  · exact hdown (.inr rfl) h
  · exact hup (.inl rfl) (.inr rfl) h
  · exact hup (.inr rfl) (.inr rfl) h
  · exact hup (.inl rfl) (.inl rfl) h
  · exact hup (.inr rfl) (.inl rfl) h
  · cases h

/-- a number does not go on in front of what ends it -/
theorem Closed.not_number (hr : Closed r) :
    ∀ c ∈ r.head?, c.isDigit = false ∧ c ≠ '.' ∧ c ≠ 'e' ∧ c ≠ 'E' := by
  intro c hc
  have hcases := hr c hc
  simp only [isBlank, Bool.or_eq_true, beq_iff_eq] at hcases
  rcases hcases with (((rfl | rfl) | rfl) | rfl) | rfl | rfl | rfl <;> decide

theorem SpellsExponent.head (ht : SpellsExponent e t) (hr : Closed r) :
    ∀ c ∈ (t ++ r).head?, c.isDigit = false ∧ c ≠ '.' := by
  have hletter : ∀ c : Char, c = 'e' ∨ c = 'E' → c.isDigit = false ∧ c ≠ '.' := by
    rintro c (rfl | rfl) <;> decide
  cases ht with
  | none => exact fun c hc => ⟨(hr.not_number c hc).1, (hr.not_number c hc).2.1⟩
  | up hc _ _ => exact fun d hd => Option.some.inj hd ▸ hletter _ hc
  | down hc _ => exact fun d hd => Option.some.inj hd ▸ hletter _ hc

theorem SpellsPlaces.head (ht : SpellsPlaces places t) (hq : ∀ c ∈ q.head?, c.isDigit = false) :
    ∀ c ∈ (t ++ q).head?, c.isDigit = false := by
  cases ht with
  | none => exact hq
  | point _ => exact fun d hd => Option.some.inj hd ▸ rfl

theorem exponentPart_of_spells (ht : SpellsExponent e t) (hr : Closed r) :
    exponentPart (t ++ r) = if t = [] then none else some (e, r) := by
  split
  · rename_i hnil
    rw [hnil]
    exact exponentPart_eq_none fun c hc => (hr.not_number c hc).2.2
  · rename_i hne
    exact exponentPart_append ht hne fun c hc => (hr.not_number c hc).1

theorem pointPart_of_spells (ht : SpellsPlaces places t) (hq : ∀ c ∈ q.head?, c.isDigit = false ∧ c ≠ '.') :
    pointPart (t ++ q) = if t = [] then none else some (places, q) := by
  cases ht with
  | none => exact pointPart_eq_none fun c hc => (hq c hc).2
  | point h => exact pointPart_append h fun c hc => (hq c hc).1

variable {start : Text} {v : Json}

theorem number_integer (h : IsWhole ds) (hn : ds.length ≤ maxDigits) (hr : Closed r) :
    number negative start (ds ++ r) = .ok (integer negative ds, r) := by
  have hpoint : pointPart r = none := pointPart_of_spells .none fun c hc =>
    ⟨(hr.not_number c hc).1, (hr.not_number c hc).2.1⟩
  have hexponent : exponentPart r = none := exponentPart_of_spells .none hr
  rw [number, wholePart?_append h fun c hc => (hr.not_number c hc).1]
  simp [hpoint, hexponent, hn]

theorem number_decimal {t' : Text} (h : IsWhole ds) (ht : SpellsPlaces places t) (ht' : SpellsExponent e t')
    (hsome : t ++ t' ≠ []) (hr : Closed r) :
    number negative start (ds ++ (t ++ (t' ++ r))) = .ok (decimal negative ds places e, r) := by
  have hpoint := pointPart_of_spells ht (ht'.head hr)
  have hexponent := exponentPart_of_spells ht' hr
  rw [number, wholePart?_append h (ht.head fun c hc => (ht'.head hr c hc).1)]
  cases ht with
  | none =>
    rw [List.nil_append] at hsome
    rw [if_neg hsome] at hexponent
    simp_all
  | point _ =>
    cases ht' with
    | none => simp_all
    | up _ _ _ => simp_all
    | down _ _ => simp_all

theorem spells_of_number (h : number negative start s = .ok (v, r)) :
    ∃ t, s = t ++ r ∧ SpellsLeaf v (sign negative ++ t) := by
  unfold number at h
  split at h
  · cases h
  · rename_i ds q hds
    obtain ⟨hwhole, rfl⟩ := wholePart?_eq_some hds
    cases hp : pointPart q with
    | none =>
      simp only [hp, Option.elim] at h
      cases hx : exponentPart q with
      | none =>
        simp only [hx] at h
        split at h
        · cases h
        · rename_i hn
          obtain ⟨rfl, rfl⟩ := Prod.mk.inj (Except.ok.inj h)
          exact ⟨ds, rfl, .integer negative hwhole (not_lt.1 hn)⟩
      | some p =>
        obtain ⟨t', ht', hne, rfl⟩ := exponentPart_eq_some hx
        simp only [hx] at h
        obtain ⟨rfl, rfl⟩ := Prod.mk.inj (Except.ok.inj h)
        exact ⟨ds ++ t', by rw [List.append_assoc], .decimal negative hwhole .none ht' hne⟩
    | some p =>
      obtain ⟨t, ht, hne, rfl⟩ := pointPart_eq_some hp
      simp only [hp, Option.elim] at h
      cases hx : exponentPart p.2 with
      | none =>
        simp only [hx] at h
        obtain ⟨rfl, rfl⟩ := Prod.mk.inj (Except.ok.inj h)
        refine ⟨ds ++ t, by rw [List.append_assoc], ?_⟩
        simpa using SpellsLeaf.decimal negative hwhole ht .none (by simpa using hne)
      | some p' =>
        obtain ⟨t', ht', -, hq⟩ := exponentPart_eq_some hx
        simp only [hx] at h
        obtain ⟨rfl, rfl⟩ := Prod.mk.inj (Except.ok.inj h)
        refine ⟨ds ++ (t ++ t'), by rw [hq]; simp, ?_⟩
        exact .decimal negative hwhole ht ht' (List.append_ne_nil_of_left_ne_nil hne _)

end

/-! ## values without values inside -/

section
variable {ds r s t w : Text} {v : Json} {negative : Bool}

theorem word?_eq_some (h : word? s = some (v, r)) : ∃ w, (w, v) ∈ words ∧ s = w ++ r := by
  obtain ⟨⟨w, v'⟩, hw, h⟩ := List.exists_of_findSome?_eq_some h
  obtain ⟨r', hr, heq⟩ := Option.map_eq_some_iff.1 h
  obtain ⟨rfl, rfl⟩ := Prod.mk.inj heq
  exact ⟨w, hw, Text.after?_eq_some.1 hr⟩

/-- no word begins with a digit, or with a sign and a digit -/
theorem word?_number (h : IsDigits ds) (negative : Bool) (r : Text) :
    word? (sign negative ++ (ds ++ r)) = none := by
  obtain ⟨d, ds, rfl, hd⟩ := h.exists_cons
  refine List.findSome?_eq_none_iff.2 fun w hw => ?_
  rw [Option.map_eq_none_iff, Option.eq_none_iff_forall_not_mem]
  intro q hq
  have heq := Text.after?_eq_some.1 hq
  have hfirst := congrArg List.head? heq
  have hsecond := congrArg (fun s => s.tail.head?) heq
  simp only [words, List.mem_cons, List.not_mem_nil, or_false] at hw
  cases negative
  · rcases hw with rfl | rfl | rfl | rfl | rfl | rfl <;> cases hfirst <;> cases hd
  · rcases hw with rfl | rfl | rfl | rfl | rfl | rfl <;> cases hfirst
    cases hsecond
    cases hd

theorem leaf_word (h : (w, v) ∈ words) : leaf (w ++ r) = .ok (v, r) := by
  simp only [words, List.mem_cons, List.not_mem_nil, or_false, Prod.mk.injEq] at h
  rcases h with ⟨rfl, rfl⟩ | ⟨rfl, rfl⟩ | ⟨rfl, rfl⟩ | ⟨rfl, rfl⟩ | ⟨rfl, rfl⟩ | ⟨rfl, rfl⟩ <;> rfl

theorem leaf_number (h : IsDigits ds) :
    leaf (sign negative ++ (ds ++ r)) = number negative (sign negative ++ (ds ++ r)) (ds ++ r) := by
  have hword := word?_number h negative r
  obtain ⟨d, ds, rfl, hd⟩ := h.exists_cons
  unfold leaf
  split
  · rename_i heq
    cases negative
    · cases heq
      cases hd
    · cases heq
  · rw [hword]
    cases negative
    · simp only
      split
      · rename_i heq
        cases heq
        cases hd
      · rfl
    · rfl

theorem leaf_append (h : SpellsLeaf v t) (hr : Closed r) : leaf (t ++ r) = .ok (v, r) := by
  cases h with
  | word h => exact leaf_word h
  | text h =>
    refine map_eq_ok.2 ⟨_, quotedText_eq_ok.2 ⟨_, rfl, h⟩, rfl⟩
  | integer negative h hn =>
    rw [List.append_assoc, leaf_number h.1, number_integer h hn hr]
  | decimal negative h ht ht' hsome =>
    rw [List.append_assoc, List.append_assoc, leaf_number h.1, List.append_assoc,
      number_decimal h ht ht' hsome hr]

theorem spells_of_leaf (h : leaf s = .ok (v, r)) : ∃ t, s = t ++ r ∧ SpellsLeaf v t := by
  unfold leaf at h
  split at h
  · obtain ⟨⟨s', r'⟩, hq, heq⟩ := map_eq_ok.1 h
    obtain ⟨rfl, rfl⟩ := Prod.mk.inj heq
    obtain ⟨t, rfl, ht⟩ := quotedText_eq_ok.1 hq
    exact ⟨_, rfl, .text ht⟩
  · split at h
    · rename_i hword
      cases Except.ok.inj h
      obtain ⟨w, hw, rfl⟩ := word?_eq_some hword
      exact ⟨w, rfl, .word hw⟩
    · split at h
      · obtain ⟨t, rfl, ht⟩ := spells_of_number h
        exact ⟨_, rfl, ht⟩
      · obtain ⟨t, rfl, ht⟩ := spells_of_number h
        exact ⟨t, rfl, ht⟩

theorem SpellsLeaf.begins (h : SpellsLeaf v t) :
    ¬Closed t ∧ t.head? ≠ some '[' ∧ t.head? ≠ some '\x7b' := by
  have hdigit : ∀ {ds q : Text} (negative : Bool), IsDigits ds →
      ¬Closed (sign negative ++ (ds ++ q)) ∧ (sign negative ++ (ds ++ q)).head? ≠ some '[' ∧
        (sign negative ++ (ds ++ q)).head? ≠ some '\x7b' := by
    intro ds q negative hds
    obtain ⟨d, ds, rfl, hd⟩ := hds.exists_cons
    cases negative
    · refine ⟨fun hclosed => ?_, ?_, ?_⟩
      · exact absurd hd (by simp [((Closed.not_number hclosed) d rfl).1])
      · rintro ⟨⟩
        cases hd
      · rintro ⟨⟩
        cases hd
    · exact ⟨by rw [sign, if_pos rfl, List.singleton_append, closed_cons]; decide, nofun, nofun⟩
  cases h with
  | word h =>
    simp only [words, List.mem_cons, List.not_mem_nil, or_false, Prod.mk.injEq] at h
    rcases h with ⟨rfl, -⟩ | ⟨rfl, -⟩ | ⟨rfl, -⟩ | ⟨rfl, -⟩ | ⟨rfl, -⟩ | ⟨rfl, -⟩ <;>
      exact ⟨by simp [closed_cons, isBlank], nofun, nofun⟩
  | text _ => exact ⟨by rw [closed_cons]; decide, nofun, nofun⟩
  | @integer ds negative h _ => simpa using hdigit (q := []) negative h.1
  | decimal negative h _ _ _ => exact hdigit negative h.1

theorem SpellsLeaf.ne_nil (h : SpellsLeaf v t) : t ≠ [] := by
  rintro rfl
  exact h.begins.1 closed_nil

theorem SpellsLeaf.not_container (h : SpellsLeaf v t) : (∀ vs, v ≠ list vs) ∧ ∀ fs, v ≠ object fs := by
  cases h with
  | word h =>
    simp only [words, List.mem_cons, List.not_mem_nil, or_false, Prod.mk.injEq] at h
    rcases h with ⟨-, rfl⟩ | ⟨-, rfl⟩ | ⟨-, rfl⟩ | ⟨-, rfl⟩ | ⟨-, rfl⟩ | ⟨-, rfl⟩ <;> exact ⟨nofun, nofun⟩
  | text _ => exact ⟨nofun, nofun⟩
  | integer _ _ _ => exact ⟨nofun, nofun⟩
  | decimal _ _ _ _ _ => exact ⟨nofun, nofun⟩

end

/-! ## no room is needed -/

section
variable {c : Container}

theorem escape_ne_tooDeep (opened : Nat) (q : Text) : escape opened q ≠ .error (.tooDeep c) := by
  have hjoined : ∀ n r, joined n r ≠ .error (.tooDeep c) := by
    intro n r
    unfold joined
    repeat' split
    all_goals nofun
  unfold escape
  repeat' split
  all_goals first | exact hjoined _ _ | nofun

theorem quotedText_ne_tooDeep (r : Text) : quotedText r ≠ .error (.tooDeep c) := by
  have hfrom : ∀ k q, textFrom (r.length + 1) k q ≠ .error (.tooDeep c) := by
    intro k q
    induction q generalizing k with
    | nil => cases k <;> nofun
    | cons d q ih =>
      cases k with
      | succ k => exact ih k
      | zero =>
        rw [textFrom]
        split
        · nofun
        · split
          · split
            · exact fun h => ih _ (map_eq_error.1 h)
            · rename_i e he
              rintro ⟨⟩
              exact escape_ne_tooDeep _ _ he
          · split
            · nofun
            · exact fun h => ih _ (map_eq_error.1 h)
  exact hfrom 0 r

theorem leaf_ne_tooDeep (s : Text) : leaf s ≠ .error (.tooDeep c) := by
  have hnumber : ∀ negative start s, number negative start s ≠ .error (.tooDeep c) := by
    intro negative start s
    unfold number
    repeat' split
    all_goals nofun
  unfold leaf
  split
  · exact fun h => quotedText_ne_tooDeep _ (map_eq_error.1 h)
  · repeat' split
    all_goals first | exact hnumber _ _ _ | nofun

end

end Mailroom.Json
