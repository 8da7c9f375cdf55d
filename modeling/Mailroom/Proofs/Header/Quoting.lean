import Mailroom.Proofs.Header.Encoding
import Mathlib.Data.List.Infix

/-!
# Texts in quotes are read back

Inside quotes stand runs and blanks, and encoded words where their mark is seen.  The reading goes on step by
step; what every step keeps is that the tokens so far and the rest make up the text.

* `escaped`       the inside of quotes; `span_escaped`, `Scan.unescapeUntil_escaped` read blanks and runs of it;
* `Scan.leads_repeatWhile_ends`   an invariant of repeated steps;
* `Scan.HasNoMark`                no encoded word begins in a text;
* `Scan.leads_inside_step`        one step inside quotes;
* `Scan.leads_quotedText_quote`   quotes are read to their end, and give the text in them.
-/

namespace Mailroom.Header

/-! ## quotes -/

/-- the inside of quotes -/
def escaped (s : Text) : Text := s.flatMap fun c => if c = '"' ∨ c = '\\' then ['\\', c] else [c]

theorem quote_eq (s : Text) : quote s = '"' :: (escaped s ++ ['"']) := rfl

variable {c : Char} {w r : Text}

theorem escaped_mark (hc : c = '"' ∨ c = '\\') (w : Text) : escaped (c :: w) = '\\' :: c :: escaped w := by
  rw [escaped, List.flatMap_cons, if_pos hc]
  rfl

theorem escaped_cons (hc : ¬(c = '"' ∨ c = '\\')) (w : Text) : escaped (c :: w) = c :: escaped w := by
  rw [escaped, List.flatMap_cons, if_neg hc]
  rfl

/-- a character that is no mark stands in front of the inside exactly as in front of the text -/
theorem exists_of_escaped {x : Text} (hc : ¬(c = '"' ∨ c = '\\')) (h : escaped w ++ '"' :: r = c :: x) :
    ∃ w', w = c :: w' ∧ escaped w' ++ '"' :: r = x := by
  rw [not_or] at hc
  cases w with
  | nil => exact absurd (List.cons.inj h).1.symm hc.1
  | cons d w =>
    by_cases hmark : d = '"' ∨ d = '\\'
    · rw [escaped_mark hmark] at h
      exact absurd (List.cons.inj h).1.symm hc.2
    · rw [escaped_cons hmark, List.cons_append] at h
      obtain ⟨rfl, hx⟩ := List.cons.inj h
      exact ⟨w, rfl, hx⟩

theorem not_mark_of_isBlank (h : Text.isBlank c = true) : ¬(c = '"' ∨ c = '\\') := by
  rintro (rfl | rfl) <;> exact absurd h (by decide)

theorem isBlank_of_isSpace (h : isSpace c = true) : Text.isBlank c = true := by
  have hc : c = ' ' ∨ c = '\t' := by simpa [isSpace] using h
  rcases hc with rfl | rfl <;> decide

/-- blanks inside quotes stand for themselves -/
theorem span_escaped (w r : Text) :
    (escaped w ++ '"' :: r).takeWhile Text.isBlank = w.takeWhile Text.isBlank ∧
      (escaped w ++ '"' :: r).dropWhile Text.isBlank = escaped (w.dropWhile Text.isBlank) ++ '"' :: r := by
  induction w with
  | nil => exact ⟨rfl, rfl⟩
  | cons c w ih =>
    by_cases hblank : Text.isBlank c = true
    · rw [escaped_cons (not_mark_of_isBlank hblank), List.cons_append, List.takeWhile_cons_of_pos hblank,
        List.dropWhile_cons_of_pos hblank, List.takeWhile_cons_of_pos hblank, List.dropWhile_cons_of_pos hblank,
        ih.1, ih.2]
      exact ⟨rfl, rfl⟩
    · rw [List.takeWhile_cons_of_neg hblank, List.dropWhile_cons_of_neg hblank]
      by_cases hmark : c = '"' ∨ c = '\\'
      · rw [escaped_mark hmark]
        exact ⟨rfl, rfl⟩
      · rw [escaped_cons hmark, List.cons_append, List.takeWhile_cons_of_neg hblank,
          List.dropWhile_cons_of_neg hblank]
        exact ⟨rfl, rfl⟩

namespace Scan

variable {s t : Text}

/-- a run inside quotes goes to the next blank or to the end of the quotes -/
theorem unescapeUntil_escaped (w r : Text) :
    unescapeUntil (· == '"') false (escaped w ++ '"' :: r) =
      (w.takeWhile fun c => !isSpace c, escaped (w.dropWhile fun c => !isSpace c) ++ '"' :: r) := by
  induction w with
  | nil =>
    show unescapeUntil _ false ('"' :: r) = _
    rw [unescapeUntil]
    rfl
  | cons c w ih =>
    by_cases hspace : isSpace c = true
    · have hmark := not_mark_of_isBlank (isBlank_of_isSpace hspace)
      rw [List.takeWhile_cons_of_neg (by simpa using hspace), List.dropWhile_cons_of_neg (by simpa using hspace),
        escaped_cons hmark, List.cons_append, unescapeUntil, if_pos hspace]
    · rw [List.takeWhile_cons_of_pos (by simpa using hspace), List.dropWhile_cons_of_pos (by simpa using hspace)]
      by_cases hmark : c = '"' ∨ c = '\\'
      · rw [escaped_mark hmark]
        show unescapeUntil _ false ('\\' :: c :: (escaped w ++ '"' :: r)) = _
        rw [unescapeUntil, if_neg (by decide), if_pos (by decide), unescapeUntil, if_neg hspace, if_neg (by simp),
          if_neg (by simp), ih]
      · rw [not_or] at hmark
        rw [escaped_cons (by tauto), List.cons_append, unescapeUntil, if_neg hspace, if_neg (by simp [hmark]),
          if_neg (by simp [hmark]), ih]

/-- an encoded word begins inside quotes only where its mark stands in the text -/
theorem readEncodedWord_escaped (h : ¬['=', '?'] <+: w) (r : Text) :
    readEncodedWord (escaped w ++ '"' :: r) = .absent := by
  have hnone : Text.after? "=?" (escaped w ++ '"' :: r) = none := by
    refine if_neg fun hprefix => h ?_
    obtain ⟨x, hx⟩ := List.isPrefixOf_iff_prefix.1 hprefix
    obtain ⟨w₁, rfl, hx₁⟩ := exists_of_escaped (by decide) hx.symm
    obtain ⟨w₂, rfl, -⟩ := exists_of_escaped (by decide) hx₁
    exact ⟨w₂, rfl⟩
  unfold readEncodedWord
  rw [hnone]

/-! ## repeated steps -/

section
variable {α β σ : Type} {R : Prop}

/-- an invariant of the steps of a repetition that goes on to its end, since every step takes something -/
theorem leads_repeatWhile_ends {goesOn : Text → Bool} {step : σ → Scan σ} {I : σ → Text → Prop} {st : σ}
    (hnil : goesOn [] = false)
    (hstep : ∀ st s, I st s → goesOn s = true →
      Leads (step st) s (fun st' s' => I st' s' ∧ s'.length < s.length) R) (h : I st s) :
    Leads (repeatWhile goesOn step st) s (fun st' s' => I st' s' ∧ goesOn s' = false) R := by
  have hrepeat : ∀ n st s, I st s → s.length ≤ n →
      Leads (repeatUpTo goesOn step n st) s (fun st' s' => I st' s' ∧ goesOn s' = false) R := by
    intro n
    induction n with
    | zero =>
      intro st s h hn
      obtain rfl := List.length_eq_zero_iff.1 (Nat.le_zero.1 hn)
      exact ⟨h, hnil⟩
    | succ n ih =>
      intro st s h hn
      simp only [repeatUpTo, leads_bind, leads_get, leads_ite, leads_pure]
      split
      · rename_i hgoes
        exact (hstep st s h hgoes).mono (fun st' s' h' => ih st' s' h'.1 (by have := h'.2; omega)) id
      · rename_i hstops
        exact ⟨h, by simpa using hstops⟩
  exact hrepeat s.length st s h (Nat.le_refl _)

end

/-! ## quoted texts -/

theorem textAll_append (ts us : List Token) :
    Token.textAll (ts ++ us) = Token.textAll ts ++ Token.textAll us := by
  induction ts with
  | nil => rfl
  | cons t ts ih => rw [List.cons_append, Token.textAll, Token.textAll, ih, List.append_assoc]

theorem textAll_reverse_cons (t : Token) (ts : List Token) :
    Token.textAll (t :: ts).reverse = Token.textAll ts.reverse ++ t.text := by
  rw [List.reverse_cons, textAll_append, Token.textAll, Token.textAll, List.append_nil]

/-- no encoded word begins in a text -/
def HasNoMark (w : Text) : Prop := ¬['=', '?'] <:+: w

/-- the tokens so far and what is left of the inside of quotes -/
def Inside (w r : Text) (st : List Token × Flaw) (s : Text) : Prop :=
  ∃ v, s = escaped v ++ '"' :: r ∧ Token.textAll st.1.reverse ++ v = w ∧ st.2 = .none

theorem leads_space_escaped {v : Text} {done : List Token} {flaw : Flaw}
    (hdone : Token.textAll done.reverse ++ v = w) (hflaw : flaw = .none) (hv : v.head?.any isSpace = true) :
    Leads space (escaped v ++ '"' :: r)
      (fun t u => Inside w r (t :: done, flaw) u ∧ u.length < (escaped v ++ '"' :: r).length) False := by
  obtain ⟨c, v', rfl⟩ : ∃ c v', v = c :: v' := by
    cases v with
    | nil => cases hv
    | cons c v' => exact ⟨c, v', rfl⟩
  have hblank : Text.isBlank c = true := isBlank_of_isSpace (by simpa using hv)
  simp only [space, leads_bind, leads_get, leads_set, leads_pure]
  refine ⟨⟨(c :: v').dropWhile Text.isBlank, (span_escaped _ _).2, ?_, hflaw⟩, ?_⟩
  · rw [textAll_reverse_cons, Token.text, (span_escaped _ _).1, List.append_assoc, List.takeWhile_append_dropWhile]
    · exact hdone
    · rintro ⟨⟩
  · rw [escaped_cons (not_mark_of_isBlank hblank), List.cons_append, Text.trimStart,
      List.dropWhile_cons_of_pos hblank]
    exact Nat.lt_succ_of_le (List.dropWhile_sublist _).length_le

theorem leads_quotedRun_escaped {v : Text} {done : List Token} {flaw : Flaw}
    (hdone : Token.textAll done.reverse ++ v = w) (hflaw : flaw = .none) :
    Leads quotedRun (escaped v ++ '"' :: r)
      (fun t u => Inside w r (t :: done, flaw) u ∧
        u = escaped (v.dropWhile fun c => !isSpace c) ++ '"' :: r) False := by
  simp only [quotedRun, inside, leads_bind, leads_get, leads_set, leads_pure, unescapeUntil_escaped]
  refine ⟨⟨v.dropWhile fun c => !isSpace c, rfl, ?_, hflaw⟩, trivial⟩
  rw [textAll_reverse_cons, Token.text, List.append_assoc, List.takeWhile_append_dropWhile]
  · exact hdone
  · rintro ⟨⟩

theorem length_escaped_cons (c : Char) (w : Text) : (escaped w).length < (escaped (c :: w)).length := by
  by_cases hmark : c = '"' ∨ c = '\\'
  · rw [escaped_mark hmark]
    exact Nat.lt_of_succ_lt (Nat.lt_succ_self _)
  · rw [escaped_cons hmark]
    exact Nat.lt_succ_self _

theorem length_escaped_dropWhile (p : Char → Bool) (w : Text) :
    (escaped (w.dropWhile p)).length ≤ (escaped w).length := by
  induction w with
  | nil => exact Nat.le_refl _
  | cons c w ih =>
    rw [List.dropWhile_cons]
    split
    · exact Nat.le_trans ih (Nat.le_of_lt (length_escaped_cons c w))
    · exact Nat.le_refl _

/-- one step inside quotes reads blanks or a run -/
theorem leads_inside_step {v : Text} {done : List Token} {flaw : Flaw} (hw : HasNoMark w)
    (hdone : Token.textAll done.reverse ++ v = w) (hflaw : flaw = .none)
    (hgoes : (escaped v ++ '"' :: r).head?.any (· != '"') = true) :
    if (escaped v ++ '"' :: r).head?.any isSpace = true then
      Leads space (escaped v ++ '"' :: r)
        (fun t u => Inside w r (t :: done, flaw) u ∧ u.length < (escaped v ++ '"' :: r).length) False
    else
      readEncodedWord (escaped v ++ '"' :: r) = .absent ∧
        Leads quotedRun (escaped v ++ '"' :: r)
          (fun t u => Inside w r (t :: done, flaw) u ∧ u.length < (escaped v ++ '"' :: r).length) False := by
  obtain ⟨c, v, rfl⟩ : ∃ c v', v = c :: v' := by
    cases v with
    | nil => cases hgoes
    | cons c v => exact ⟨c, v, rfl⟩
  split
  · rename_i hspace
    refine leads_space_escaped hdone hflaw ?_
    by_cases hmark : c = '"' ∨ c = '\\'
    · rw [escaped_mark hmark] at hspace
      cases hspace
    · rw [escaped_cons hmark] at hspace
      exact hspace
  · rename_i hspace
    have hc : isSpace c = false := by
      by_cases hmark : c = '"' ∨ c = '\\'
      · rcases hmark with rfl | rfl <;> decide
      · rw [escaped_cons hmark] at hspace
        simpa using hspace
    refine ⟨readEncodedWord_escaped (fun hmark => hw ?_) r,
      (leads_quotedRun_escaped hdone hflaw).mono (fun t u h => ⟨h.1, ?_⟩) id⟩
    · rw [← hdone]
      exact hmark.isInfix.trans (List.suffix_append _ _).isInfix
    · have hdrop := length_escaped_dropWhile (fun c => !isSpace c) v
      have hless := length_escaped_cons c v
      rw [h.2, List.dropWhile_cons_of_pos (by simp [hc]), List.length_append, List.length_append]
      omega

/-- what is left of the inside of quotes is nothing if no step can follow -/
theorem eq_nil_of_stops {v : Text} (h : (escaped v ++ '"' :: r).head?.any (· != '"') = false) : v = [] := by
  cases v with
  | nil => rfl
  | cons c v =>
    by_cases hmark : c = '"' ∨ c = '\\'
    · rw [escaped_mark hmark] at h
      cases h
    · rw [escaped_cons hmark] at h
      exact absurd (by simpa using h) (not_or.1 hmark).1

/-- quotes are read to their end -/
theorem leads_quotedText_quote (hw : HasNoMark w) (r : Text) :
    Leads quotedText (quote w ++ r)
      (fun t u => (∃ ps, t = .node .quotedText .none ps ∧ Token.textAll ps = w) ∧ u = r) False := by
  have hquote : quote w ++ r = '"' :: (escaped w ++ '"' :: r) := by
    rw [quote_eq, List.cons_append, List.append_assoc]
    rfl
  have hempty : Inside w r ([], Flaw.none) (escaped w ++ '"' :: r) := ⟨w, rfl, rfl, rfl⟩
  rw [hquote]
  simp only [quotedText, leads_bind, leads_next, leads_ite, leads_skip, leads_sees, leads_pure, leads_atEnd]
  rw [if_neg (by decide)]
  split
  case' isTrue =>
    have hdone : Token.textAll ([] : List Token).reverse ++ w = w := rfl
    refine (leads_quotedRun_escaped hdone rfl).mono (fun first t h =>
      (leads_repeatWhile_ends (I := Inside w r) rfl ?_ h.1).mono ?_ id) id
  case' isFalse => refine (leads_repeatWhile_ends (I := Inside w r) rfl ?_ hempty).mono ?_ id
  case isTrue.refine_1 | isFalse.refine_1 =>
    rintro ⟨done, flaw⟩ s ⟨v, rfl, hdone, hflaw⟩ hgoes
    have hstep := leads_inside_step hw hdone hflaw hgoes
    simp only [leads_bind, leads_sees, leads_ite, leads_get, leads_pure]
    split at hstep
    · rw [if_pos ‹_›]
      exact hstep
    · rw [if_neg ‹_›, hstep.1]
      exact hstep.2
  case isTrue.refine_2 | isFalse.refine_2 =>
    rintro ⟨done, flaw⟩ s ⟨⟨v, rfl, hdone, rfl⟩, hstops⟩
    obtain rfl := eq_nil_of_stops hstops
    rw [List.append_nil] at hdone
    exact ⟨⟨_, rfl, hdone⟩, rfl⟩

end Scan
end Mailroom.Header
