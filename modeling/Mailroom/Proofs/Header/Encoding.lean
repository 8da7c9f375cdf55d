import Mailroom.Message.Basic
import Mathlib.Order.Basic

/-!
# Transfer encodings can be read

Whatever stands in the field of a transfer encoding, it can be read: a word, and behind it words, marks and
comments in any order.

* `Scan.Leads`    what a reading leads to from a rest: a result, or no reading in this form;
* `Scan.leads_transferEncoding`   the reading of a transfer encoding has a result;
* `exists_transferEncoding`       so has its field.
-/

namespace Mailroom.Header

namespace Scan

section
variable {α β σ : Type} {p q : Scan α} {k : α → Scan β} {Q Q' : α → Text → Prop} {R R' : Prop} {s : Text}

/-! ## what a reading leads to -/

/-- the reading of `s` has a result of the kind `Q`, or `s` does not have its form and `R` holds -/
def Leads (p : Scan α) (s : Text) (Q : α → Text → Prop) (R : Prop) : Prop :=
  match p s with
  | .ok (a, t) => Q a t
  | .error .mismatch => R
  | .error _ => False

theorem Leads.mono (h : Leads p s Q R) (hQ : ∀ a t, Q a t → Q' a t) (hR : R → R') : Leads p s Q' R' := by
  unfold Leads at *
  cases hp : p s with
  | ok x =>
    rw [hp] at h
    exact hQ _ _ h
  | error e =>
    rw [hp] at h
    cases e with
    | mismatch => exact hR h
    | pastEnd => exact h
    | noPart => exact h

theorem leads_bind {Q : β → Text → Prop} :
    Leads (p >>= k) s Q R ↔ Leads p s (fun a t => Leads (k a) t Q R) R := by
  have hbind : (p >>= k) s = p s >>= fun x => k x.1 x.2 := rfl
  unfold Leads
  rw [hbind]
  cases p s with
  | ok x => rfl
  | error e => cases e <;> rfl

theorem leads_ite {c : Prop} [Decidable c] :
    Leads (if c then p else q) s Q R ↔ if c then Leads p s Q R else Leads q s Q R := by
  split <;> rfl

theorem leads_orElse : Leads (orElse p q) s Q R ↔ Leads p s Q (Leads q s Q R) := by
  unfold Leads orElse
  cases p s with
  | ok x => rfl
  | error e => cases e <;> rfl

theorem leads_pure {a : α} : Leads (pure a) s Q R ↔ Q a s := Iff.rfl

theorem leads_mismatch : Leads mismatch s Q R ↔ R := Iff.rfl

theorem leads_get {Q : Text → Text → Prop} : Leads get s Q R ↔ Q s s := Iff.rfl

theorem leads_set {t : Text} {Q : PUnit → Text → Prop} : Leads (set t) s Q R ↔ Q ⟨⟩ t := Iff.rfl

theorem leads_skip {Q : Unit → Text → Prop} : Leads skip s Q R ↔ Q () s.tail := Iff.rfl

theorem leads_sees {kind : Char → Bool} {Q : Bool → Text → Prop} :
    Leads (sees kind) s Q R ↔ Q (s.head?.any kind) s := Iff.rfl

theorem leads_atEnd {Q : Bool → Text → Prop} : Leads atEnd s Q R ↔ Q s.isEmpty s := Iff.rfl

theorem leads_next {c : Char} {Q : Char → Text → Prop} : Leads next (c :: s) Q R ↔ Q c (c :: s) := Iff.rfl

/-- a run of characters, or none -/
theorem leads_run {kind : Char → Bool} : Leads (run kind) s (fun _ _ => True) (¬s.head?.any kind = true) := by
  unfold run
  rw [leads_bind, leads_get]
  split
  · rename_i hnone
    rw [leads_mismatch]
    cases s with
    | nil => simp
    | cons c s =>
      rw [List.takeWhile_cons] at hnone
      split at hnone
      · cases hnone
      · simpa using ‹¬kind c = true›
  · trivial

/-- an invariant of the steps of a repetition -/
theorem leads_repeatWhile {goesOn : Text → Bool} {step : σ → Scan σ} {I : σ → Text → Prop} {st : σ}
    (hstep : ∀ st s, I st s → goesOn s = true → Leads (step st) s I R) (h : I st s) :
    Leads (repeatWhile goesOn step st) s I R := by
  have hrepeat : ∀ n st s, I st s → Leads (repeatUpTo goesOn step n st) s I R := by
    intro n
    induction n with
    | zero => exact fun st s h => h
    | succ n ih =>
      intro st s h
      simp only [repeatUpTo, leads_bind, leads_get, leads_ite, leads_pure]
      split
      · rename_i hgoes
        exact (hstep st s h hgoes).mono (fun a t => ih a t) id
      · exact h
  exact hrepeat s.length st s h

/-! ## blanks and comments -/

theorem leads_space : Leads space s (fun _ t => t.length ≤ s.length) False := by
  simp only [space, leads_bind, leads_get, leads_set, leads_pure]
  exact (List.dropWhile_sublist _).length_le

theorem length_unescapeUntil (ends : Char → Bool) (escaped : Bool) (s : Text) :
    (unescapeUntil ends escaped s).2.length ≤ s.length := by
  fun_induction unescapeUntil ends escaped s <;> grind

theorem leads_inside {kind : Leaf} {ends : Char → Bool} :
    Leads (inside kind ends) s (fun _ t => t.length ≤ s.length) False := by
  simp only [inside, leads_bind, leads_get, leads_set, leads_pure]
  exact length_unescapeUntil ends false s

/-- a comment is read wherever a parenthesis opens, however deep it goes -/
theorem leads_commentUpTo {n : Nat} (hopen : s.head? = some '(') (hn : s.length ≤ n) :
    Leads (commentUpTo n) s (fun _ t => t.length ≤ s.length) False := by
  induction n generalizing s with
  | zero =>
    rw [List.length_eq_zero_iff.1 (Nat.le_zero.1 hn)] at hopen
    cases hopen
  | succ n ih =>
    obtain ⟨r, rfl⟩ := List.head?_eq_some_iff.1 hopen
    simp only [commentUpTo, leads_bind, leads_sees, leads_ite, leads_skip, leads_atEnd, leads_pure]
    rw [if_neg (by simp)]
    refine (leads_repeatWhile (I := fun _ t => t.length ≤ r.length) ?_ (Nat.le_refl _)).mono ?_ id
    · intro done t ht hgoes
      simp only [leads_bind, leads_sees, leads_ite, leads_pure]
      split
      · exact leads_space.mono (fun _ u hu => Nat.le_trans hu ht) id
      split
      · rename_i hparen
        have hinner : t.head? = some '(' := by simpa [Option.any_eq_true] using hparen
        have hless : t.length ≤ n := by
          rw [List.length_cons] at hn
          omega
        exact (ih hinner hless).mono (fun _ u hu => Nat.le_trans hu ht) id
      · exact leads_inside.mono (fun _ u hu => Nat.le_trans hu ht) id
    · intro parts t ht
      have := List.length_tail (l := t)
      rw [List.length_cons]
      split <;> omega

theorem leads_comment (hopen : s.head? = some '(') : Leads comment s (fun _ _ => True) False := by
  simp only [comment, leads_bind, leads_get]
  exact (leads_commentUpTo hopen (Nat.le_succ _)).mono (fun _ _ _ => trivial) id

theorem leads_filler : Leads filler s (fun _ _ => True) False := by
  simp only [filler, leads_bind, leads_pure]
  refine leads_repeatWhile (I := fun _ _ => True) ?_ trivial
  intro done t _ hgoes
  simp only [leads_bind, leads_sees, leads_ite, leads_pure]
  split
  · exact leads_space.mono (fun _ _ _ => trivial) id
  · rename_i hspace
    refine leads_comment ?_
    cases t with
    | nil => cases hgoes
    | cons c t =>
      have hc : isSpace c = false := by simpa using hspace
      simpa [opensFiller, hc] using hgoes

theorem leads_filler? : Leads filler? s (fun _ _ => True) False := by
  simp only [filler?, leads_bind, leads_sees, leads_ite, leads_pure]
  split
  · exact leads_filler
  · trivial

/-- fillers are passed over only where one begins -/
theorem leads_filler?_of_head {c : Char} (hc : opensFiller c = false) :
    Leads filler? (c :: s) (fun ts t => ts = [] ∧ t = c :: s) False := by
  simp only [filler?, leads_bind, leads_sees, leads_ite, leads_pure]
  rw [if_neg (by simp [hc])]
  trivial

/-- no filler begins with a character of an atom -/
theorem not_opensFiller_of_not_endsAtom {c : Char} (hc : endsAtom c = false) : opensFiller c = false := by
  rw [endsAtom, Bool.or_eq_false_iff] at hc
  have hopen : c ≠ '(' := by
    rintro rfl
    exact absurd hc.1 (by decide)
  simp [opensFiller, hc.2, hopen]

/-! ## words -/

/-- quotes are read to their end, or to that of the rest -/
theorem leads_quotedText : Leads quotedText ('"' :: s) (fun _ _ => True) False := by
  have hrun : ∀ {t : Text}, Leads quotedRun t (fun _ _ => True) False :=
    leads_inside.mono (fun _ _ _ => trivial) id
  simp only [quotedText, leads_bind, leads_next, leads_ite, leads_skip, leads_sees, leads_pure, leads_atEnd,
    ite_self]
  rw [if_neg (by decide)]
  split
  case' isTrue => refine hrun.mono (fun first t _ => leads_repeatWhile (I := fun _ _ => True) ?_ trivial) id
  case' isFalse => refine leads_repeatWhile (I := fun _ _ => True) ?_ trivial
  all_goals
    intro st t _ _
    simp only [leads_bind, leads_sees, leads_ite, leads_get, leads_pure]
    split
    · exact leads_space.mono (fun _ _ _ => trivial) id
    split
    · simp only [leads_bind, leads_set, leads_pure]
    · simp only [leads_bind, leads_pure]
      exact hrun

theorem leads_quotedString : Leads quotedString ('"' :: s) (fun _ _ => True) False := by
  simp only [quotedString, leads_bind, leads_pure]
  refine (leads_filler?_of_head (by decide)).mono (fun ts t ht => ?_) id
  obtain ⟨rfl, rfl⟩ := ht
  exact leads_quotedText.mono (fun _ _ _ => leads_filler?) id

/-- an encoded word, or a run of the characters of an atom if there are any -/
theorem leads_encodedWordOr :
    Leads (encodedWordOr atomText) s (fun _ _ => True) (¬s.head?.any (fun c => !endsAtom c) = true) := by
  simp only [encodedWordOr, atomText, leads_bind, leads_get]
  split
  · simp only [leads_bind, leads_set, leads_pure]
  · simp only [leads_bind, leads_pure]
    exact leads_run

theorem leads_atom : Leads atom s (fun _ _ => True) True := by
  simp only [atom, leads_bind, leads_sees, leads_ite, leads_mismatch, leads_pure]
  refine leads_filler?.mono (fun ts t _ => ?_) False.elim
  split
  · trivial
  · exact leads_encodedWordOr.mono (fun _ _ _ => leads_filler?.mono (fun _ _ h => h) False.elim) fun _ => trivial

/-- a character of an atom begins one -/
theorem leads_atom_of_head {c : Char} (hc : endsAtom c = false) :
    Leads atom (c :: s) (fun _ _ => True) False := by
  have hfiller : opensFiller c = false := not_opensFiller_of_not_endsAtom hc
  simp only [atom, leads_bind, leads_sees, leads_ite, leads_mismatch, leads_pure]
  refine (leads_filler?_of_head hfiller).mono (fun ts t ht => ?_) id
  obtain ⟨rfl, rfl⟩ := ht
  rw [if_neg (by simp [hc])]
  exact leads_encodedWordOr.mono (fun _ _ _ => leads_filler?) fun h => h (by simp [hc])

/-- a word, unless none begins here -/
theorem leads_word (hne : s ≠ []) : Leads word s (fun _ _ => True) True := by
  have hbehind : ∀ t : Text, if t.isEmpty = true then True
      else if t.head?.any (· == '"') = true then Leads quotedString t (fun _ _ => True) True
      else if t.head?.any isSpecial = true then True else Leads atom t (fun _ _ => True) True := by
    intro t
    split
    · trivial
    split
    · rename_i hquote
      have hopen : t.head? = some '"' := by simpa [Option.any_eq_true] using hquote
      obtain ⟨r, rfl⟩ := List.head?_eq_some_iff.1 hopen
      exact leads_quotedString.mono (fun _ _ h => h) False.elim
    split
    · trivial
    · exact leads_atom
  obtain ⟨c, r, rfl⟩ := List.exists_cons_of_ne_nil hne
  simp only [word, leads_bind, leads_next, leads_sees, leads_ite, leads_atEnd, leads_mismatch, leads_pure]
  split
  · exact leads_filler.mono (fun _ t _ => hbehind t) False.elim
  · exact hbehind (c :: r)

/-- a quote and a character of an atom begin a word -/
theorem leads_word_of_head {c : Char} (hc : c = '"' ∨ endsAtom c = false) :
    Leads word (c :: s) (fun _ _ => True) False := by
  have hfiller : opensFiller c = false := by
    rcases hc with rfl | hc
    · decide
    · exact not_opensFiller_of_not_endsAtom hc
  simp only [word, leads_bind, leads_next, leads_sees, leads_ite, leads_atEnd, leads_mismatch, leads_pure]
  rw [if_neg (by simp [hfiller]), if_neg (by simp)]
  rcases hc with rfl | hc
  · rw [if_pos (by simp)]
    exact leads_quotedString
  · have hspecial : isSpecial c = false := (Bool.or_eq_false_iff.1 hc).1
    have hquote : c ≠ '"' := by
      rintro rfl
      exact absurd hc (by decide)
    rw [if_neg (by simp [hquote]), if_neg (by simp [hspecial])]
    exact leads_atom_of_head hc

/-- a phrase is read wherever something stands -/
theorem leads_phrase (hne : s ≠ []) : Leads phrase s (fun _ _ => True) False := by
  simp only [phrase, leads_bind, leads_orElse, leads_pure]
  refine (leads_word hne).mono (fun _ t _ => ?_) fun _ => ?_
  all_goals
    refine leads_repeatWhile (I := fun _ _ => True) ?_ trivial
    intro st t _ hgoes
    obtain ⟨c, r, rfl⟩ : ∃ c r, t = c :: r := by
      cases t with
      | nil => cases hgoes
      | cons c r => exact ⟨c, r, rfl⟩
    simp only [leads_bind, leads_sees, leads_ite, leads_skip, leads_orElse, leads_mismatch, leads_pure]
    split
    · trivial
    · rename_i hdot
      by_cases hfiller : opensFiller c = true
      · refine (leads_word (List.cons_ne_nil c r)).mono (fun _ _ h => h) fun _ => ?_
        rw [if_pos (by simpa using hfiller)]
        exact leads_filler
      · refine (leads_word_of_head ?_).mono (fun _ _ h => h) False.elim
        simp only [List.head?_cons, Option.any_some] at hgoes hdot
        simp only [opensFiller, endsPhrase, endsAtom] at hgoes hfiller ⊢
        grind

/-- words, marks and comments in any order -/
theorem leads_junk (ends : Char → Bool) : Leads (junk ends) s (fun _ _ => True) False := by
  simp only [junk, leads_bind, leads_pure]
  refine leads_repeatWhile (I := fun _ _ => True) ?_ trivial
  intro done t _ hgoes
  cases t with
  | nil => cases hgoes
  | cons c r =>
    simp only [leads_bind, leads_next, leads_ite, leads_skip, phraseToken, leads_pure]
    split
    · trivial
    · exact leads_phrase (List.cons_ne_nil c r)

/-! ## the field -/

theorem leads_word? : Leads word? s (fun _ _ => True) False := by
  simp only [word?, paddedRun, leads_orElse, leads_bind, leads_pure]
  refine leads_filler?.mono (fun _ t _ => ?_) False.elim
  exact leads_run.mono (fun _ _ _ => leads_filler?.mono (fun _ _ h => h) False.elim) fun _ => trivial

/-- the reading of a transfer encoding has a result -/
theorem leads_transferEncoding : Leads transferEncoding s (fun _ _ => True) False := by
  simp only [transferEncoding, leads_bind, leads_pure]
  exact leads_word?.mono (fun _ _ _ => leads_junk _) id

end
end Scan

/-- the field of a transfer encoding can be read, whatever stands in it -/
theorem exists_transferEncoding (value : Text) : ∃ f, Field.read .transferEncoding value = .ok f := by
  have hleads : Scan.Leads Scan.transferEncoding value (fun _ _ => True) False := Scan.leads_transferEncoding
  unfold Scan.Leads at hleads
  show ∃ f, Field.ofScan Scan.transferEncoding value = .ok f
  unfold Field.ofScan
  cases h : Scan.transferEncoding value with
  | ok x =>
    rw [show StateT.run Scan.transferEncoding value = Except.ok x from h]
    exact ⟨_, rfl⟩
  | error e =>
    rw [h] at hleads
    cases e <;> exact hleads.elim

end Mailroom.Header

namespace Mailroom

/-- the transfer encoding that a header declares can be read -/
theorem MessageHeader.exists_transferEncoding (h : MessageHeader) :
    ∃ e, h.field? "Content-Transfer-Encoding" = .ok e := by
  unfold MessageHeader.field?
  cases hfind : h.fields.find? (MessageHeader.hasName "Content-Transfer-Encoding") with
  | none => exact ⟨none, rfl⟩
  | some f =>
    have hname : Text.asciiLower f.name = Text.asciiLower "Content-Transfer-Encoding" := by
      simpa [MessageHeader.hasName] using List.find?_some hfind
    have hkind : Header.Kind.ofName f.name = .transferEncoding := by
      unfold Header.Kind.ofName
      rw [hname]
      rfl
    obtain ⟨r, hr⟩ := Header.exists_transferEncoding f.value
    refine ⟨some r.shown, ?_⟩
    show (do return some (← Header.Field.read (Header.Kind.ofName f.name) f.value).shown) = _
    rw [hkind, hr]
    rfl

end Mailroom
