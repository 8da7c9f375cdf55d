import Mailroom.Proofs.Json.Leaves

/-!
# Values are read as they are written

`Reads one R O` says of a reader that it reads exactly what `R` says is written, in front of what
cannot go on with it, and runs out of room exactly where `O` says.  Each reader of what is inside makes
one of what is around it, so that the reader of values reads `Spells` and runs out of room where
`Overruns` holds (`reads_value`).

* `Spells.or_overruns`   a value fits in the room there is, or overruns it;
* `read_eq_ok`           a text is read exactly if it holds a value and does not exceed the room;
* `read_eq_tooDeep`      reading it ends for want of room exactly if it exceeds it;
* `IsJson.unique`        a text holds at most one value;
* `find?_gathered`       of fields of one name the last one counts.
-/

namespace Mailroom.Json

/-- what reading with `one` comes to -/
structure Reads {α : Type} (one : Text → Read α) (R : α → Text → Prop) (O : Text → Prop) : Prop where
  complete : ∀ {a t r}, R a t → Closed r → one (t ++ r) = .ok (a, r)
  sound : ∀ {s a r}, one s = .ok (a, r) → ∃ t, s = t ++ r ∧ R a t
  tooDeep : ∀ {s}, (∃ c, one s = .error (.tooDeep c)) ↔ O s
  begins : ∀ {a t}, R a t → ¬Closed t
  begins_deep : ∀ {s}, O s → ¬Closed s

/-! ## blanks -/

section
variable {c : Char} {q r s t w : Text}

theorem closed_blanks_append (hw : IsBlanks w) (h : Closed r) : Closed (w ++ r) := by
  cases w with
  | nil => exact h
  | cons c w => exact closed_cons.2 (.inl (hw c List.mem_cons_self))

theorem skip_stop (hw : IsBlanks w) (hc : isBlank c = false) : skip (w ++ c :: s) = c :: s :=
  dropWhile_stop hw hc

theorem skip_append (hw : IsBlanks w) (hs : ¬Closed s) : skip (w ++ s) = s := by
  cases s with
  | nil => exact absurd closed_nil hs
  | cons c s =>
    rw [closed_cons, not_or] at hs
    exact skip_stop hw (Bool.eq_false_iff.2 hs.1)

theorem exists_skip (s : Text) : ∃ w, IsBlanks w ∧ s = w ++ skip s :=
  ⟨s.takeWhile isBlank, fun _ => List.mem_takeWhile_imp, List.takeWhile_append_dropWhile.symm⟩

theorem skip_blanks (hw : IsBlanks w) : skip w = [] :=
  List.dropWhile_eq_nil_iff.2 hw

end

/-! ## items -/

section
variable {α : Type} {one : Text → Read α} {R : α → Text → Prop} {O : Text → Prop} {close : Char} {as : List α}
  {r s t : Text} {steps : Nat}

theorem SpellsItems.begins (hone : Reads one R O) (h : SpellsItems R close as t) : ¬Closed t := by
  cases h with
  | last h _ => exact not_closed_append (hone.begins h) _
  | next h _ _ _ => exact not_closed_append (hone.begins h) _

theorem OverrunsItems.begins (hone : Reads one R O) (h : OverrunsItems R O s) : ¬Closed s := by
  cases h with
  | here h => exact hone.begins_deep h
  | next h _ _ _ => exact not_closed_append (hone.begins h) _

/-- a closing bracket -/
def Closes (close : Char) : Prop := close = ']' ∨ close = '\x7d'

theorem Closes.closed (h : Closes close) (r : Text) : Closed (close :: r) := closed_cons.2 (.inr (.inr h))

theorem Closes.not_blank (h : Closes close) : isBlank close = false := by
  rcases h with rfl | rfl <;> rfl

theorem Closes.ne_comma (h : Closes close) : close ≠ ',' := by
  rcases h with rfl | rfl <;> decide

/-- an item in front of a comma, and the items behind it -/
theorem items_comma {a : α} {w w' : Text} (hone : Reads one R O) (hclose : Closes close) (h : R a t)
    (hw : IsBlanks w) (hw' : IsBlanks w') (hs : ¬Closed s) (n : Nat) :
    items close one (n + 1) (t ++ (w ++ ',' :: (w' ++ s))) =
      (items close one n s).map fun p => (a :: p.1, p.2) := by
  have hcomma : Closed (',' :: (w' ++ s)) := closed_cons.2 (.inr (.inl rfl))
  rw [items, hone.complete h (closed_blanks_append hw hcomma)]
  dsimp only
  rw [skip_stop hw rfl]
  dsimp only
  rw [if_neg hclose.ne_comma.symm, if_pos rfl, skip_append hw' hs]

theorem items_append (hone : Reads one R O) (hclose : Closes close) (h : SpellsItems R close as t)
    (hsteps : t.length < steps) (r : Text) : items close one steps (t ++ r) = .ok (as, r) := by
  -- the text that is left is shorter behind each comma, so that the steps suffice
  induction h generalizing steps with
  | @last a t w h hw =>
    obtain ⟨n, rfl⟩ := Nat.exists_eq_add_one_of_ne_zero (Nat.ne_zero_of_lt hsteps)
    rw [List.append_assoc, List.append_assoc, List.singleton_append, items,
      hone.complete h (closed_blanks_append hw (hclose.closed r))]
    dsimp only
    rw [skip_stop hw hclose.not_blank]
    exact if_pos rfl
  | @next a as t w w' t' h hw hw' hs ih =>
    obtain ⟨n, rfl⟩ := Nat.exists_eq_add_one_of_ne_zero (Nat.ne_zero_of_lt hsteps)
    have hassoc : t ++ (w ++ ',' :: (w' ++ t')) ++ r = t ++ (w ++ ',' :: (w' ++ (t' ++ r))) := by simp
    have hshort : t'.length < n := by
      simp only [List.length_append, List.length_cons] at hsteps
      omega
    rw [hassoc, items_comma hone hclose h hw hw' (not_closed_append (hs.begins hone) r), ih hshort]
    rfl

/-- what the items begin with: one that cannot be read, or one in front of the closing bracket, of a comma
and the other items, or of something that is none of these -/
theorem items_cases (hone : Reads one R O) (close : Char) (n : Nat) (s : Text) :
    (∃ e, one s = .error e ∧ items close one (n + 1) s = .error e) ∨
      ∃ a t w s', s = t ++ (w ++ s') ∧ R a t ∧ IsBlanks w ∧
        ((∃ r, s' = close :: r ∧ items close one (n + 1) s = .ok ([a], r)) ∨
          (∃ w' r, s' = ',' :: (w' ++ r) ∧ IsBlanks w' ∧
            items close one (n + 1) s = (items close one n r).map fun p => (a :: p.1, p.2)) ∨
          ∃ e, items close one (n + 1) s = .error e ∧ ∀ c, e ≠ .tooDeep c) := by
  rw [items]
  cases hread : one s with
  | error e => exact .inl ⟨e, rfl, rfl⟩
  | ok p =>
    obtain ⟨a, q⟩ := p
    obtain ⟨t, rfl, ht⟩ := hone.sound hread
    obtain ⟨w, hw, hq⟩ := exists_skip q
    refine .inr ⟨a, t, w, skip q, by rw [← hq], ht, hw, ?_⟩
    dsimp only
    cases hskip : skip q with
    | nil => exact .inr (.inr ⟨_, rfl, nofun⟩)
    | cons c r =>
      dsimp only
      split
      · rename_i hc
        exact .inl ⟨r, by rw [hc], rfl⟩
      split
      · rename_i hc
        obtain ⟨w', hw', hr⟩ := exists_skip r
        exact .inr (.inl ⟨w', skip r, by rw [hc, ← hr], hw', rfl⟩)
      · exact .inr (.inr ⟨_, rfl, nofun⟩)

theorem spells_of_items (hone : Reads one R O) (h : items close one steps s = .ok (as, r)) :
    ∃ t, s = t ++ r ∧ SpellsItems R close as t := by
  induction steps generalizing s as with
  | zero => cases h
  | succ steps ih =>
    rcases items_cases hone close steps s with ⟨e, -, he⟩ | ⟨a, t, w, s', rfl, ht, hw, hrest⟩
    · cases he.symm.trans h
    rcases hrest with ⟨r', rfl, hlast⟩ | ⟨w', s', rfl, hw', hnext⟩ | ⟨e, he, -⟩
    · cases hlast.symm.trans h
      exact ⟨_, by simp, .last ht hw⟩
    · rw [hnext] at h
      obtain ⟨⟨as', r'⟩, hitems, heq⟩ := map_eq_ok.1 h
      cases heq
      obtain ⟨t', rfl, hs⟩ := ih hitems
      exact ⟨_, by simp, .next ht hw hw' hs⟩
    · cases he.symm.trans h

theorem items_eq_tooDeep (hone : Reads one R O) (hclose : Closes close) (hsteps : s.length < steps) :
    (∃ c, items close one steps s = .error (.tooDeep c)) ↔ OverrunsItems R O s := by
  constructor
  · rintro ⟨c, h⟩
    clear hsteps
    induction steps generalizing s with
    | zero => cases h
    | succ steps ih =>
      rcases items_cases hone close steps s with ⟨e, hread, he⟩ | ⟨a, t, w, s', rfl, ht, hw, hrest⟩
      · cases he.symm.trans h
        exact .here (hone.tooDeep.1 ⟨c, hread⟩)
      rcases hrest with ⟨r', rfl, hlast⟩ | ⟨w', s', rfl, hw', hnext⟩ | ⟨e, he, hother⟩
      · cases hlast.symm.trans h
      · rw [hnext] at h
        exact .next ht hw hw' (ih (map_eq_error.1 h))
      · exact absurd (Except.error.inj (he.symm.trans h)) (hother c)
  · intro h
    induction h generalizing steps with
    | here h =>
      obtain ⟨n, rfl⟩ := Nat.exists_eq_add_one_of_ne_zero (Nat.ne_zero_of_lt hsteps)
      obtain ⟨c, hc⟩ := hone.tooDeep.2 h
      exact ⟨c, by rw [items, hc]⟩
    | @next a t w w' s h hw hw' hs ih =>
      obtain ⟨n, rfl⟩ := Nat.exists_eq_add_one_of_ne_zero (Nat.ne_zero_of_lt hsteps)
      have hshort : s.length < n := by
        simp only [List.length_append, List.length_cons] at hsteps
        omega
      obtain ⟨c, hc⟩ := ih hshort
      exact ⟨c, by rw [items_comma hone hclose h hw hw' (hs.begins hone), hc]; rfl⟩

/-! ## containers -/

theorem head?_ne_of_not_closed (hclose : Closes close) (h : ¬Closed s) : s.head? ≠ some close := by
  intro hs
  obtain ⟨r, rfl⟩ := List.head?_eq_some_iff.1 hs
  exact h (hclose.closed r)

theorem container_append (hone : Reads one R O) (hclose : Closes close) (h : SpellsContainer R close as t)
    (r : Text) : container close one (t ++ r) = .ok (as, r) := by
  unfold container
  cases h with
  | @empty w hw =>
    rw [List.append_assoc, List.singleton_append, skip_stop hw hclose.not_blank]
    exact if_pos rfl
  | @items _ w t hw h =>
    have hbegins := not_closed_append (h.begins hone) r
    rw [List.append_assoc, skip_append hw hbegins, if_neg (head?_ne_of_not_closed hclose hbegins)]
    exact items_append hone hclose h (by rw [List.length_append]; omega) r

theorem spells_of_container (hone : Reads one R O) (h : container close one s = .ok (as, r)) :
    ∃ t, s = t ++ r ∧ SpellsContainer R close as t := by
  obtain ⟨w, hw, hs⟩ := exists_skip s
  unfold container at h
  split at h
  · rename_i hhead
    obtain ⟨q, hq⟩ := List.head?_eq_some_iff.1 hhead
    rw [hq] at h hs
    obtain ⟨rfl, rfl⟩ := Prod.mk.inj (Except.ok.inj h)
    exact ⟨_, by rw [hs]; simp, .empty hw⟩
  · obtain ⟨t, ht, hitems⟩ := spells_of_items hone h
    exact ⟨_, by rw [hs, ht, List.append_assoc], .items hw hitems⟩

theorem container_eq_tooDeep (hone : Reads one R O) (hclose : Closes close) :
    (∃ c, container close one s = .error (.tooDeep c)) ↔ OverrunsContainer R O s := by
  constructor
  · rintro ⟨c, h⟩
    obtain ⟨w, hw, hs⟩ := exists_skip s
    unfold container at h
    split at h
    · cases h
    · rw [hs]
      exact .items hw ((items_eq_tooDeep hone hclose (Nat.lt_succ_self _)).1 ⟨c, h⟩)
  · rintro ⟨hw, h⟩
    have hbegins := h.begins hone
    unfold container
    rw [skip_append hw hbegins, if_neg (head?_ne_of_not_closed hclose hbegins)]
    exact (items_eq_tooDeep hone hclose (Nat.lt_succ_self _)).2 h

end

/-! ## fields -/

theorem fieldText_append (q w w' t r : Text) :
    '"' :: (q ++ (w ++ ':' :: (w' ++ t))) ++ r = '"' :: (q ++ (w ++ ':' :: (w' ++ (t ++ r)))) := by
  simp

/-- a name in front of a colon, and the value behind it -/
theorem field_colon {one : Text → Read Json} {name q w : Text} (hname : SpellsText name q) (hw : IsBlanks w)
    (s : Text) :
    field one ('"' :: (q ++ (w ++ ':' :: s))) = (one (skip s)).map fun p => ((name, p.1), p.2) := by
  rw [field, quotedText_eq_ok.2 ⟨q, rfl, hname⟩]
  dsimp only
  rw [skip_stop hw rfl]
  rfl

/-- a field is a name, a colon and what the reader of its value makes of the rest; what is none is told as
something else than a want of room -/
theorem field_cases (one : Text → Read Json) (s : Text) :
    (∃ e, field one s = .error e ∧ ∀ c, e ≠ .tooDeep c) ∨
      ∃ name q w w' r, s = '"' :: (q ++ (w ++ ':' :: (w' ++ r))) ∧ SpellsText name q ∧ IsBlanks w ∧ IsBlanks w' ∧
        field one s = (one r).map fun p => ((name, p.1), p.2) := by
  unfold field
  split
  · rename_i q
    split
    · rename_i e hname
      exact .inl ⟨e, rfl, fun c hc => quotedText_ne_tooDeep _ (hc ▸ hname)⟩
    · rename_i name q' hname
      obtain ⟨t, rfl, ht⟩ := quotedText_eq_ok.1 hname
      obtain ⟨w, hw, hq⟩ := exists_skip q'
      split
      · rename_i q'' hskip
        obtain ⟨w', hw', hq'⟩ := exists_skip q''
        refine .inr ⟨name, t, w, w', skip q'', ?_, ht, hw, hw', rfl⟩
        rw [← hq', ← hskip, ← hq]
      · exact .inl ⟨_, rfl, nofun⟩
  · exact .inl ⟨_, rfl, nofun⟩

theorem reads_field {one : Text → Read Json} {R : Json → Text → Prop} {O : Text → Prop} (hone : Reads one R O) :
    Reads (field one) (SpellsField R) (OverrunsField O) where
  complete := by
    rintro _ _ r ⟨hname, hw, hw', h⟩ hr
    rename_i name q w w' t v
    rw [fieldText_append, field_colon hname hw, skip_append hw' (not_closed_append (hone.begins h) r), hone.complete h hr]
    rfl
  sound := by
    rintro s ⟨name, v⟩ r h
    rcases field_cases one s with ⟨e, he, -⟩ | ⟨name', q, w, w', s, rfl, hname, hw, hw', hfield⟩
    · cases he.symm.trans h
    · rw [hfield] at h
      obtain ⟨⟨v', r'⟩, hv, heq⟩ := map_eq_ok.1 h
      cases heq
      obtain ⟨t, rfl, ht⟩ := hone.sound hv
      exact ⟨_, (fieldText_append q w w' t _).symm, .intro hname hw hw' ht⟩
  tooDeep := by
    intro s
    constructor
    · rintro ⟨c, h⟩
      rcases field_cases one s with ⟨e, he, hother⟩ | ⟨name, q, w, w', s, rfl, hname, hw, hw', hfield⟩
      · exact absurd (Except.error.inj (he.symm.trans h)) (hother c)
      · rw [hfield] at h
        exact .intro hname hw hw' (hone.tooDeep.1 ⟨c, map_eq_error.1 h⟩)
    · rintro ⟨hname, hw, hw', h⟩
      obtain ⟨c, hc⟩ := hone.tooDeep.2 h
      exact ⟨c, by rw [field_colon hname hw, skip_append hw' (hone.begins_deep h), hc]; rfl⟩
  begins := by
    rintro _ _ ⟨_, _, _, _⟩
    rw [closed_cons]
    decide
  begins_deep := by
    rintro _ ⟨_, _, _, _⟩
    rw [closed_cons]
    decide

/-! ## values -/

section
variable {s t : Text} {v : Json} {inside : Option (Text → Read Json)}

theorem valueWith_leaf (h : s.head? ≠ some '[' ∧ s.head? ≠ some '\x7b') : valueWith inside s = leaf s := by
  unfold valueWith
  split
  all_goals first | exact absurd rfl h.1 | exact absurd rfl h.2 | rfl

theorem SpellsLeaf.head_append (h : SpellsLeaf v t) (r : Text) :
    (t ++ r).head? ≠ some '[' ∧ (t ++ r).head? ≠ some '\x7b' := by
  rw [List.head?_append_of_ne_nil _ h.ne_nil]
  exact h.begins.2

theorem reads_without_room : Reads (valueWith none) SpellsLeaf (Overruns 0) where
  complete := by
    intro v t r h hr
    rw [valueWith_leaf (h.head_append r), leaf_append h hr]
  sound := by
    intro s v r h
    unfold valueWith at h
    split at h
    · cases h
    · contradiction
    · cases h
    · contradiction
    · exact spells_of_leaf h
  tooDeep := by
    intro s
    constructor
    · rintro ⟨c, h⟩
      by_contra hno
      rw [valueWith_leaf (not_or.1 hno)] at h
      exact leaf_ne_tooDeep s h
    · rintro (h | h)
      · obtain ⟨r, rfl⟩ := List.head?_eq_some_iff.1 h
        exact ⟨.list, rfl⟩
      · obtain ⟨r, rfl⟩ := List.head?_eq_some_iff.1 h
        exact ⟨.object, rfl⟩
  begins h := h.begins.1
  begins_deep := by
    rintro s (h | h)
    all_goals
      obtain ⟨r, rfl⟩ := List.head?_eq_some_iff.1 h
      rw [closed_cons]
      decide

theorem reads_with_room {one : Text → Read Json} {R : Json → Text → Prop} {O : Text → Prop}
    (hone : Reads one R O) :
    Reads (valueWith (some one)) (SpellsWith R) (OverrunsWith R O) where
  complete := by
    intro v t r h hr
    cases h with
    | leaf h => rw [valueWith_leaf (h.head_append r), leaf_append h hr]
    | list h => exact map_eq_ok.2 ⟨_, container_append hone (.inl rfl) h r, rfl⟩
    | object h => exact map_eq_ok.2 ⟨_, container_append (reads_field hone) (.inr rfl) h r, rfl⟩
  sound := by
    intro s v r h
    unfold valueWith at h
    split at h
    · cases h
    · rename_i q one' hinside
      cases hinside
      obtain ⟨⟨vs, r'⟩, hvs, heq⟩ := map_eq_ok.1 h
      obtain ⟨rfl, rfl⟩ := Prod.mk.inj heq
      obtain ⟨t, rfl, ht⟩ := spells_of_container hone hvs
      exact ⟨_, rfl, .list ht⟩
    · cases h
    · rename_i q one' hinside
      cases hinside
      obtain ⟨⟨fs, r'⟩, hfs, heq⟩ := map_eq_ok.1 h
      obtain ⟨rfl, rfl⟩ := Prod.mk.inj heq
      obtain ⟨t, rfl, ht⟩ := spells_of_container (reads_field hone) hfs
      exact ⟨_, rfl, .object ht⟩
    · obtain ⟨t, rfl, ht⟩ := spells_of_leaf h
      exact ⟨t, rfl, .leaf ht⟩
  tooDeep := by
    intro s
    constructor
    · rintro ⟨c, h⟩
      unfold valueWith at h
      split at h
      · contradiction
      · rename_i q one' hinside
        cases hinside
        exact .list ((container_eq_tooDeep hone (.inl rfl)).1 ⟨c, map_eq_error.1 h⟩)
      · contradiction
      · rename_i q one' hinside
        cases hinside
        exact .object ((container_eq_tooDeep (reads_field hone) (.inr rfl)).1 ⟨c, map_eq_error.1 h⟩)
      · exact absurd h (leaf_ne_tooDeep _)
    · rintro (h | h)
      · obtain ⟨c, hc⟩ := (container_eq_tooDeep hone (.inl rfl)).2 h
        exact ⟨c, map_eq_error.2 hc⟩
      · obtain ⟨c, hc⟩ := (container_eq_tooDeep (reads_field hone) (.inr rfl)).2 h
        exact ⟨c, map_eq_error.2 hc⟩
  begins := by
    intro v t h
    cases h with
    | leaf h => exact h.begins.1
    | list _ => rw [closed_cons]; decide
    | object _ => rw [closed_cons]; decide
  begins_deep := by
    rintro s (h | h)
    all_goals
      rw [closed_cons]
      decide

/-- **The reader of values reads exactly what is written, and runs out of room exactly where the text
overruns it.** -/
theorem reads_value (room : Nat) : Reads (value room) (Spells room) (Overruns room) := by
  induction room with
  | zero => exact reads_without_room
  | succ room ih => exact reads_with_room ih

end

/-! ## room -/

section
variable {α : Type} {R R' : α → Text → Prop} {O : Text → Prop} {close : Char} {as : List α} {t : Text}

theorem SpellsItems.or_overruns (hR : ∀ a t, R a t → ∀ r, R' a t ∨ O (t ++ r)) (h : SpellsItems R close as t)
    (r : Text) : SpellsItems R' close as t ∨ OverrunsItems R' O (t ++ r) := by
  induction h with
  | @last a t w h hw =>
    rw [List.append_assoc]
    rcases hR a t h ((w ++ [close]) ++ r) with h' | hO
    · exact .inl (.last h' hw)
    · exact .inr (.here hO)
  | @next a as t w w' t' h hw hw' hs ih =>
    rw [List.append_assoc]
    rcases hR a t h ((w ++ ',' :: (w' ++ t')) ++ r) with h' | hO
    · rcases ih with hs' | hs'
      · exact .inl (.next h' hw hw' hs')
      · refine .inr ?_
        rw [List.append_assoc, List.cons_append, List.append_assoc]
        exact .next h' hw hw' hs'
    · exact .inr (.here hO)

theorem SpellsContainer.or_overruns (hR : ∀ a t, R a t → ∀ r, R' a t ∨ O (t ++ r))
    (h : SpellsContainer R close as t) (r : Text) :
    SpellsContainer R' close as t ∨ OverrunsContainer R' O (t ++ r) := by
  cases h with
  | empty hw => exact .inl (.empty hw)
  | items hw h =>
    rcases h.or_overruns hR r with h' | h'
    · exact .inl (.items hw h')
    · rw [List.append_assoc]
      exact .inr (.items hw h')

end

section
variable {r s t : Text} {v v' : Json} {room n : Nat}

theorem SpellsField.or_overruns {R R' : Json → Text → Prop} {O : Text → Prop}
    (hR : ∀ v t, R v t → ∀ r, R' v t ∨ O (t ++ r)) (f : Text × Json) (t : Text) (h : SpellsField R f t)
    (r : Text) : SpellsField R' f t ∨ OverrunsField O (t ++ r) := by
  obtain ⟨hname, hw, hw', h⟩ := h
  rename_i q w w' t v
  rcases hR v t h r with h' | h'
  · exact .inl (.intro hname hw hw' h')
  · refine .inr ?_
    rw [fieldText_append]
    exact .intro hname hw hw' h'

/-- a value fits in the room there is, or overruns it -/
theorem Spells.or_overruns (h : Spells n v t) (room : Nat) (r : Text) :
    Spells room v t ∨ Overruns room (t ++ r) := by
  induction room generalizing n v t r with
  | zero =>
    cases n with
    | zero => exact .inl h
    | succ n =>
      cases h with
      | leaf h => exact .inl h
      | list _ => exact .inr (.inl rfl)
      | object _ => exact .inr (.inr rfl)
  | succ room ih =>
    cases n with
    | zero => exact .inl (.leaf h)
    | succ n =>
      -- what is written inside fits in one less, or overruns it there and so here
      have hinside : ∀ v t, Spells n v t → ∀ r, Spells room v t ∨ Overruns room (t ++ r) :=
        fun v t h r => ih h r
      cases h with
      | leaf h => exact .inl (.leaf h)
      | list h => exact (h.or_overruns hinside r).imp .list .list
      | object h => exact (h.or_overruns (SpellsField.or_overruns hinside) r).imp .object .object

theorem OverrunsField.imp {O O' : Text → Prop} (hO : ∀ s, O s → O' s) (s : Text) (h : OverrunsField O s) :
    OverrunsField O' s := by
  obtain ⟨hname, hw, hw', h⟩ := h
  exact .intro hname hw hw' (hO _ h)

theorem OverrunsContainer.imp {α : Type} {R R' : α → Text → Prop} {O O' : Text → Prop}
    (hR : ∀ a t, R a t → ∀ r, R' a t ∨ O' (t ++ r)) (hO : ∀ s, O s → O' s) (h : OverrunsContainer R O s) :
    OverrunsContainer R' O' s := by
  have hitems : ∀ s, OverrunsItems R O s → OverrunsItems R' O' s := by
    intro s h
    induction h with
    | here h => exact .here (hO _ h)
    | next h hw hw' _ ih =>
      rcases hR _ _ h _ with h' | h'
      · exact .next h' hw hw' ih
      · exact .here h'
  obtain ⟨hw, h⟩ := h
  exact .items hw (hitems _ h)

/-- what overruns some room overruns less of it -/
theorem Overruns.of_le {m n : Nat} (h : Overruns m s) (hn : n ≤ m) : Overruns n s := by
  induction n generalizing m s with
  | zero =>
    cases m with
    | zero => exact h
    | succ m =>
      cases h with
      | list _ => exact .inl rfl
      | object _ => exact .inr rfl
  | succ n ih =>
    obtain ⟨m, rfl⟩ := Nat.exists_eq_add_of_le' hn
    have hinside : ∀ s, Overruns (m + n) s → Overruns n s := fun s h => ih h (Nat.le_add_left n m)
    have hspells : ∀ v t, Spells (m + n) v t → ∀ r, Spells n v t ∨ Overruns n (t ++ r) :=
      fun v t h r => h.or_overruns n r
    cases h with
    | list h => exact .list (h.imp hspells hinside)
    | object h => exact .object (h.imp (SpellsField.or_overruns hspells) (OverrunsField.imp hinside))

/-- lists one inside the other overrun the room if there are more of them -/
theorem overruns_replicate {m : Nat} (h : n < m) (s : Text) : Overruns n (List.replicate m '[' ++ s) := by
  obtain ⟨k, rfl⟩ := Nat.exists_eq_add_of_lt h
  clear h
  induction n with
  | zero =>
    rw [Nat.zero_add, List.replicate_succ]
    exact .inl rfl
  | succ n ih =>
    have hcount : n + 1 + k + 1 = (n + k + 1) + 1 := by omega
    rw [hcount, List.replicate_succ]
    exact .list (.items (w := []) nofun (.here ih))

/-! ## whole texts -/

theorem exceeds_iff : Exceeds room s ↔ Overruns room (skip s) := by
  constructor
  · rintro ⟨w, t, hw, h, rfl⟩
    rwa [skip_append hw ((reads_value room).begins_deep h)]
  · intro h
    obtain ⟨w, hw, hs⟩ := exists_skip s
    exact ⟨w, skip s, hw, h, hs⟩

theorem value_byteOrderMark (room : Nat) (r : Text) :
    value room ('\ufeff' :: r) = wrong .value ('\ufeff' :: r) := by
  cases room <;> rfl

theorem read_eq_tooDeep : (∃ c, read room s = .error (.tooDeep c)) ↔ Exceeds room s := by
  rw [exceeds_iff, ← (reads_value room).tooDeep]
  have hfault : ∀ {e c}, fault s e = .tooDeep c → e = .tooDeep c := by
    rintro (_ | _ | _) c ⟨⟩
    rfl
  constructor
  · rintro ⟨c, h⟩
    unfold read at h
    split at h
    · cases h
    · split at h
      · rename_i e he
        exact ⟨c, by rw [he, hfault (Except.error.inj h)]⟩
      · split at h
        · cases h
        · cases hfault (Except.error.inj h)
  · rintro ⟨c, h⟩
    refine ⟨c, ?_⟩
    unfold read
    split
    · rename_i hmark
      obtain ⟨r, rfl⟩ := List.head?_eq_some_iff.1 hmark
      have hskip : skip ('\ufeff' :: r) = '\ufeff' :: r := rfl
      rw [hskip, value_byteOrderMark] at h
      cases h
    · rw [h]
      rfl

/-- **A text is read exactly if it holds a value and does not exceed the room.** -/
theorem read_eq_ok : read room s = .ok v ↔ IsJson v s ∧ ¬Exceeds room s := by
  constructor
  · intro h
    refine ⟨?_, fun hdeep => ?_⟩
    · unfold read at h
      split at h
      · cases h
      · split at h
        · cases h
        · rename_i v' r hread
          split at h
          · rename_i hr
            cases Except.ok.inj h
            obtain ⟨w, hw, hs⟩ := exists_skip s
            obtain ⟨w', hw', hr'⟩ := exists_skip r
            obtain ⟨t, ht, hspells⟩ := (reads_value room).sound hread
            rw [hr, List.append_nil] at hr'
            exact ⟨room, w, t, w', hw, hw', hspells, by rw [hs, ht, hr']⟩
          · cases h
    · obtain ⟨c, hc⟩ := read_eq_tooDeep.2 hdeep
      cases hc.symm.trans h
  · rintro ⟨⟨n, w, t, w', hw, hw', h, rfl⟩, hroom⟩
    have hbegins := not_closed_append ((reads_value n).begins h) w'
    rw [exceeds_iff, skip_append hw hbegins] at hroom
    have hread := (reads_value room).complete ((h.or_overruns room w').resolve_right hroom)
      (by simpa using closed_blanks_append hw' closed_nil)
    unfold read
    split
    · rename_i hmark
      obtain ⟨r, hr⟩ := List.head?_eq_some_iff.1 hmark
      have hskip : skip (w ++ (t ++ w')) = '\ufeff' :: r := by rw [hr]; rfl
      rw [← skip_append hw hbegins, hskip, value_byteOrderMark] at hread
      cases hread
    · rw [skip_append hw hbegins, hread]
      dsimp only
      rw [skip_blanks hw']

/-- what is written with no more containers one inside the other than there is room for is read -/
theorem Spells.not_exceeds {w w' : Text} (h : Spells n v t) (hn : n ≤ room) (hw : IsBlanks w) (hw' : IsBlanks w') :
    ¬Exceeds room (w ++ (t ++ w')) := by
  rw [exceeds_iff, skip_append hw (not_closed_append ((reads_value n).begins h) w')]
  intro hdeep
  obtain ⟨c, hc⟩ := (reads_value n).tooDeep.2 (hdeep.of_le hn)
  have hread := (reads_value n).complete h (by simpa using closed_blanks_append hw' closed_nil)
  cases hc.symm.trans hread

/-- a text holds at most one value -/
theorem IsJson.unique (h : IsJson v s) (h' : IsJson v' s) : v = v' := by
  obtain ⟨n, w, t, w', hw, hw', ht, rfl⟩ := id h
  have hroom := ht.not_exceeds (Nat.le_refl n) hw hw'
  have hread := read_eq_ok.2 ⟨h, hroom⟩
  exact Except.ok.inj (hread.symm.trans (read_eq_ok.2 ⟨h', hroom⟩))

end

/-! ## fields of objects -/

section
variable {fs : List (Text × Json)} {name key : Text} {v : Json}

theorem find?_put (name key : Text) (v : Json) (fs : List (Text × Json)) :
    (put name v fs).find? (·.1 == key) = if name = key then some (name, v) else fs.find? (·.1 == key) := by
  induction fs with
  | nil => by_cases h : name = key <;> simp [put, h]
  | cons f fs ih =>
    unfold put
    split
    · rename_i hf
      by_cases h : name = key
      · simp [h]
      · have hne : f.1 ≠ key := fun hkey => h (hf.symm.trans hkey)
        simp [h, hne]
    · rename_i hf
      rw [List.find?_cons, List.find?_cons, ih]
      by_cases h : f.1 = key
      · have hne : name ≠ key := fun hname => hf (h.trans hname.symm)
        simp [h, hne]
      · have hno : (f.1 == key) = false := beq_false_of_ne h
        simp [hno]

/-- of fields of one name the last one counts -/
theorem find?_gathered (fs : List (Text × Json)) (key : Text) :
    (gathered fs).find? (·.1 == key) = fs.reverse.find? (·.1 == key) := by
  induction fs using List.reverseRecOn with
  | nil => rfl
  | append_singleton fs f ih =>
    rw [gathered, List.foldl_concat, find?_put, ← gathered, ih, List.reverse_append, List.reverse_singleton,
      List.singleton_append, List.find?_cons]
    split
    · rename_i h
      rw [beq_iff_eq.2 h]
    · rename_i h
      rw [beq_false_of_ne h]

theorem mem_names_put : name ∈ (put key v fs).map (·.1) ↔ name = key ∨ name ∈ fs.map (·.1) := by
  induction fs with
  | nil => simp [put]
  | cons f fs ih =>
    unfold put
    split
    · rename_i hf
      simp [hf]
    · rw [List.map_cons, List.map_cons, List.mem_cons, List.mem_cons, ih]
      exact or_left_comm

/-- no two fields of an object have one name -/
theorem nodup_gathered (fs : List (Text × Json)) : ((gathered fs).map (·.1)).Nodup := by
  have hput : ∀ key v (fs : List (Text × Json)), (fs.map (·.1)).Nodup → ((put key v fs).map (·.1)).Nodup := by
    intro key v fs h
    induction fs with
    | nil => simp [put]
    | cons f fs ih =>
      rw [List.map_cons, List.nodup_cons] at h
      unfold put
      split
      · rename_i hf
        exact List.nodup_cons.2 ⟨hf ▸ h.1, h.2⟩
      · rename_i hf
        refine List.nodup_cons.2 ⟨fun hmem => ?_, ih h.2⟩
        exact (mem_names_put.1 hmem).elim hf h.1
  induction fs using List.reverseRecOn with
  | nil => exact List.nodup_nil
  | append_singleton fs f ih =>
    rw [gathered, List.foldl_concat]
    exact hput _ _ _ ih

/-- a field is found by its name where no other one has it -/
theorem find?_name (h : (fs.map (·.1)).Nodup) {f : Text × Json} :
    fs.find? (·.1 == key) = some f ↔ f ∈ fs ∧ f.1 = key := by
  constructor
  · intro hf
    exact ⟨List.mem_of_find?_eq_some hf, by simpa using List.find?_some hf⟩
  · rintro ⟨hmem, rfl⟩
    induction fs with
    | nil => cases hmem
    | cons g fs ih =>
      rw [List.map_cons, List.nodup_cons] at h
      rcases List.mem_cons.1 hmem with rfl | hmem
      · simp
      · have hne : g.1 ≠ f.1 := fun heq => h.1 (heq ▸ List.mem_map_of_mem hmem)
        rw [List.find?_cons, beq_false_of_ne hne]
        exact ih h.2 hmem

/-- in an object that is written no two fields have one name -/
theorem IsJson.nodup {s : Text} (h : IsJson (object fs) s) : (fs.map (·.1)).Nodup := by
  obtain ⟨n, w, t, w', -, -, h, -⟩ := h
  cases n with
  | zero => exact absurd rfl (h.not_container.2 fs)
  | succ n =>
    cases h with
    | leaf h => exact absurd rfl (h.not_container.2 fs)
    | object _ => exact nodup_gathered _

theorem SpellsContainer.first {α : Type} {R : α → Text → Prop} {close : Char} {a : α} {as : List α} {t : Text}
    (h : SpellsContainer R close (a :: as) t) : ∃ t, R a t := by
  cases h with
  | items _ h =>
    cases h with
    | last h _ => exact ⟨_, h⟩
    | next h _ _ _ => exact ⟨_, h⟩

/-- the first value of a list is written as well -/
theorem IsJson.first {s : Text} {vs : List Json} (h : IsJson (list (v :: vs)) s) : ∃ t, IsJson v t := by
  obtain ⟨n, w, t, w', -, -, h, -⟩ := h
  cases n with
  | zero => exact absurd rfl (h.not_container.1 _)
  | succ n =>
    cases h with
    | leaf h => exact absurd rfl (h.not_container.1 _)
    | list h =>
      obtain ⟨t, ht⟩ := h.first
      exact ⟨t, n, [], t, [], nofun, nofun, ht, (List.append_nil t).symm⟩

end

end Mailroom.Json
