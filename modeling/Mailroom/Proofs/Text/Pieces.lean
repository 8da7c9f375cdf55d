import Mailroom.Text.Blank
import Mathlib.Data.List.Basic
import Mathlib.Data.List.Induction

/-!
# Texts put together and cut

* `append_cons_cases`   two ways to cut one text at a character: at the same place, or one behind the
  other;
* `append_cons_inj`, `prefix_of_not_mem`, `exists_of_not_mem`   where a part does not hold the character,
  it lies on one side of the cut;
* `of_cutAt_eq_some`, `cutAt_append_cons`, `cutAt_of_not_mem`   a text cut at its first separator, if it has
  one;
* `intercalate_append_cons`, `infix_of_mem_splitOn`, `wordsBy_intercalate`   texts joined with a
  separator, and pieces as parts of the text;
* `of_mem_wordsBy`   words hold no separator;
* `trimWhere_eq_self_iff`, `trimWhere_intercalate`   texts without blanks at their ends;
* `trim_trim`   what is left when blanks are dropped has none to drop.
-/

namespace Mailroom.Text

variable {c : Char} {a b r s : Text}

theorem append_cons_cases (h : a ++ c :: r = b ++ c :: s) :
    (a = b ∧ r = s) ∨ (∃ t, b = a ++ c :: t ∧ r = t ++ c :: s) ∨
      ∃ t, a = b ++ c :: t ∧ s = t ++ c :: r := by
  rcases List.append_eq_append_iff.1 h with ⟨t, hb, hr⟩ | ⟨t, ha, hs⟩
  · cases t with
    | nil =>
      rw [List.nil_append] at hr
      exact .inl ⟨by rw [hb, List.append_nil], (List.cons.inj hr).2⟩
    | cons d t =>
      obtain ⟨rfl, hrest⟩ := List.cons.inj hr
      exact .inr (.inl ⟨t, hb, hrest⟩)
  · cases t with
    | nil =>
      rw [List.nil_append] at hs
      exact .inl ⟨by rw [ha, List.append_nil], (List.cons.inj hs).2.symm⟩
    | cons d t =>
      obtain ⟨rfl, hrest⟩ := List.cons.inj hs
      exact .inr (.inr ⟨t, ha, hrest⟩)

theorem append_cons_inj (ha : c ∉ a) (hb : c ∉ b) (h : a ++ c :: r = b ++ c :: s) :
    a = b ∧ r = s := by
  rcases append_cons_cases h with h | ⟨t, rfl, -⟩ | ⟨t, rfl, -⟩
  · exact h
  · exact absurd (List.mem_append_right a List.mem_cons_self) hb
  · exact absurd (List.mem_append_right b List.mem_cons_self) ha

/-- a text without the character that stands in front of a cut text stands in front of its first part -/
theorem prefix_of_not_mem (ha : c ∉ a) (h : a <+: b ++ c :: r) : a <+: b := by
  obtain ⟨u, hu⟩ := h
  rcases List.append_eq_append_iff.1 hu with ⟨t, hb, -⟩ | ⟨t, ha', hr⟩
  · exact ⟨t, hb.symm⟩
  · cases t with
    | nil => exact ⟨[], by rw [ha', List.append_nil, List.append_nil]⟩
    | cons d t =>
      obtain ⟨rfl, -⟩ := List.cons.inj hr
      rw [ha'] at ha
      exact absurd (List.mem_append_right b List.mem_cons_self) ha

/-- a text without the character that ends a cut text is the end of its second part -/
theorem exists_of_not_mem (ha : c ∉ a) (h : r ++ a = b ++ c :: s) : ∃ t, r = b ++ c :: t ∧ s = t ++ a := by
  rcases List.append_eq_append_iff.1 h with ⟨t, -, ha'⟩ | ⟨t, hr, hs⟩
  · rw [ha'] at ha
    exact absurd (List.mem_append_right t List.mem_cons_self) ha
  · cases t with
    | nil =>
      rw [List.nil_append] at hs
      exact absurd (hs ▸ List.mem_cons_self) ha
    | cons d t =>
      obtain ⟨rfl, hrest⟩ := List.cons.inj hs
      exact ⟨t, hr, hrest⟩

theorem after?_eq_some {w : Text} : after? w s = some r ↔ s = w ++ r := by
  unfold after?
  split
  · rename_i h
    obtain ⟨t, rfl⟩ := List.isPrefixOf_iff_prefix.1 h
    simp [eq_comm]
  · rename_i h
    simp only [reduceCtorEq, false_iff]
    rintro rfl
    exact h (List.isPrefixOf_iff_prefix.2 (List.prefix_append w r))

/-! ## pieces -/

theorem of_cutAt_eq_some {sep : Char} (h : cutAt sep s = (a, some b)) : s = a ++ sep :: b := by
  induction s generalizing a with
  | nil => cases h
  | cons e s ih =>
    rw [cutAt] at h
    by_cases he : e = sep
    · rw [if_pos he] at h
      cases h
      rw [he, List.nil_append]
    · rw [if_neg he] at h
      obtain ⟨ha, hb⟩ := Prod.mk.inj h
      rw [← ha, List.cons_append, ← ih (Prod.ext rfl hb)]

theorem cutAt_append_cons (ha : c ∉ a) : cutAt c (a ++ c :: r) = (a, some r) := by
  induction a with
  | nil => simp [cutAt]
  | cons d a ih =>
    rw [List.mem_cons, not_or] at ha
    rw [List.cons_append, cutAt, if_neg (Ne.symm ha.1), ih ha.2]

theorem cutAt_of_not_mem (h : c ∉ s) : cutAt c s = (s, none) := by
  induction s with
  | nil => rfl
  | cons d s ih =>
    rw [List.mem_cons, not_or] at h
    rw [cutAt, if_neg (Ne.symm h.1), ih h.2]

/-! ## joined texts -/

theorem intercalate_cons (sep x : Text) (l : List Text) :
    sep.intercalate (x :: l) = x ++ l.flatMap (sep ++ ·) := by
  induction l generalizing x with
  | nil => simp
  | cons y l ih =>
    rw [List.intercalate_cons_cons, ih, List.flatMap_cons, List.append_assoc, List.append_assoc]

/-- joined texts, seen from one of them -/
theorem intercalate_append_cons (sep x : Text) (l₁ l₂ : List Text) :
    sep.intercalate (l₁ ++ x :: l₂) = l₁.flatMap (· ++ sep) ++ x ++ l₂.flatMap (sep ++ ·) := by
  induction l₁ with
  | nil => rw [List.nil_append, intercalate_cons, List.flatMap_nil, List.nil_append]
  | cons y l₁ ih =>
    rw [List.cons_append, List.flatMap_cons, List.append_assoc, List.append_assoc, ← List.append_assoc _ x,
      ← ih]
    cases hl : l₁ ++ x :: l₂ with
    | nil => simp at hl
    | cons z l => rw [List.intercalate_cons_cons, List.append_assoc]

/-- a piece is a part of the text -/
theorem infix_of_mem_splitOn {sep : Char} {p : Text} (hp : p ∈ splitOn sep s) : p <:+: s := by
  obtain ⟨before, after, h⟩ := List.append_of_mem hp
  have hs := intercalate_splitOn sep s
  rw [h, intercalate_append_cons] at hs
  exact ⟨_, _, hs⟩

/-- a character of a piece stands in the text -/
theorem mem_of_mem_splitOn {sep d : Char} {p : Text} (hp : p ∈ splitOn sep s) (h : d ∈ p) : d ∈ s :=
  (infix_of_mem_splitOn hp).subset h

theorem mem_intercalate {sep : Text} {l : List Text} (h : c ∈ sep.intercalate l) :
    c ∈ sep ∨ ∃ w ∈ l, c ∈ w := by
  cases l with
  | nil => simp at h
  | cons x l =>
    rw [intercalate_cons, List.mem_append, List.mem_flatMap] at h
    rcases h with h | ⟨w, hw, h⟩
    · exact .inr ⟨x, List.mem_cons_self, h⟩
    · exact (List.mem_append.1 h).imp_right fun h => ⟨w, List.mem_cons_of_mem _ hw, h⟩

/-- a character other than the separator stands in a piece -/
theorem exists_mem_splitOn {sep : Char} (h : c ∈ s) (hc : c ≠ sep) : ∃ p ∈ splitOn sep s, c ∈ p := by
  rw [← intercalate_splitOn sep s] at h
  rcases mem_intercalate h with hsep | hpiece
  · exact absurd (List.mem_singleton.1 hsep) hc
  · exact hpiece

section
variable {p : Char → Bool}

theorem wordsBy_cons_of_pos (hc : p c = true) : wordsBy p (c :: r) = wordsBy p r := by
  cases r <;> simp [wordsBy, hc]

/-- a word in front of a separator or of the end -/
theorem wordsBy_append {w : Text} (hne : w ≠ []) (hw : ∀ c ∈ w, p c = false)
    (hr : ∀ c ∈ r.head?, p c = true) : wordsBy p (w ++ r) = w :: wordsBy p r := by
  induction w with
  | nil => exact absurd rfl hne
  | cons c w ih =>
    rw [List.forall_mem_cons] at hw
    cases w with
    | nil =>
      cases r with
      | nil => simp [wordsBy, hw.1]
      | cons d r => simp [wordsBy, hw.1, hr d rfl]
    | cons e w =>
      have hrest := ih (List.cons_ne_nil e w) hw.2
      rw [List.cons_append] at hrest
      rw [List.cons_append, List.cons_append, wordsBy.eq_def]
      simp [hw.1, hw.2 e List.mem_cons_self, hrest]

theorem wordsBy_append_singleton (hc : p c = true) : wordsBy p (s ++ [c]) = wordsBy p s := by
  induction s with
  | nil => simp [wordsBy, hc]
  | cons d s ih =>
    cases s with
    | nil => simp [wordsBy, hc]
    | cons e s =>
      rw [List.cons_append] at ih
      rw [List.cons_append, List.cons_append, wordsBy, wordsBy, ih]

theorem wordsBy_intercalate (hc : p c = true) {l : List Text}
    (hl : ∀ w ∈ l, w ≠ [] ∧ ∀ d ∈ w, p d = false) : wordsBy p ([c].intercalate l) = l := by
  induction l with
  | nil => rfl
  | cons w l ih =>
    rw [List.forall_mem_cons] at hl
    obtain ⟨⟨hne, hw⟩, hl⟩ := hl
    cases l with
    | nil =>
      have hword := wordsBy_append (r := []) hne hw nofun
      rw [List.append_nil] at hword
      rw [List.intercalate_singleton]
      exact hword
    | cons v l =>
      rw [List.intercalate_cons_cons, List.append_assoc, wordsBy_append hne hw (by simpa using hc),
        List.singleton_append, wordsBy_cons_of_pos hc, ih hl]

/-- a word is not empty and holds no separator -/
theorem of_mem_wordsBy {w : Text} (h : w ∈ wordsBy p s) : w ≠ [] ∧ ∀ c ∈ w, p c = false := by
  induction s generalizing w with
  | nil => cases h
  | cons c s ih =>
    rw [wordsBy.eq_def] at h
    grind

theorem wordsBy_congr {q : Char → Bool} (h : ∀ c ∈ s, p c = q c) : wordsBy p s = wordsBy q s := by
  induction s with
  | nil => rfl
  | cons c s ih =>
    rw [List.forall_mem_cons] at h
    rw [wordsBy.eq_def, wordsBy.eq_def q]
    simp only [h.1, ih h.2]
    cases s with
    | nil => rfl
    | cons d s => simp only [h.2 d List.mem_cons_self]

end

/-! ## blanks at both ends -/

section
variable {p : Char → Bool}

theorem trimWhere_of_ends (hfront : ∀ c ∈ s.head?, p c = false) (hback : ∀ c ∈ s.getLast?, p c = false) :
    trimWhere p s = s := by
  have hdrop : ∀ {l : Text}, (∀ c ∈ l.head?, p c = false) → l.dropWhile p = l := by
    intro l hl
    cases l with
    | nil => rfl
    | cons c l => rw [List.dropWhile_cons, if_neg (by simp [hl c rfl])]
  rw [trimWhere, hdrop hfront, hdrop (by rwa [List.head?_reverse]), List.reverse_reverse]

theorem trimWhere_eq_self (h : ∀ c ∈ s, p c = false) : trimWhere p s = s :=
  trimWhere_of_ends (fun c hc => h c (List.mem_of_mem_head? hc)) fun c hc => h c (List.mem_of_mem_getLast? hc)

/-- what is left is the text itself where no blank stands at its ends -/
theorem trimWhere_eq_self_iff :
    trimWhere p s = s ↔ (∀ c ∈ s.head?, p c = false) ∧ ∀ c ∈ s.getLast?, p c = false := by
  constructor
  · intro h
    have hfront : s.dropWhile p = s := by
      have hless := (List.dropWhile_sublist (l := (s.dropWhile p).reverse) p).length_le
      refine (List.dropWhile_sublist p).eq_of_length_le ?_
      rw [← congrArg List.length h, trimWhere, List.length_reverse, ← @List.length_reverse _ (s.dropWhile p)]
      exact hless
    refine ⟨fun c hc => ?_, fun c hc => ?_⟩
    · have hhead := List.head?_dropWhile_not p s
      rw [hfront, Option.mem_def.1 hc] at hhead
      simpa using hhead
    · have hlast := List.head?_dropWhile_not p (s.dropWhile p).reverse
      rw [← h, trimWhere, List.getLast?_reverse] at hc
      rw [Option.mem_def.1 hc] at hlast
      simpa using hlast
  · rintro ⟨hfront, hback⟩
    exact trimWhere_of_ends hfront hback

theorem mem_trimWhere (h : c ∈ s) (hc : p c = false) : c ∈ trimWhere p s := by
  have hdrop : ∀ {l : Text}, c ∈ l → c ∈ l.dropWhile p := by
    intro l hl
    rw [← List.takeWhile_append_dropWhile (p := p) (l := l)] at hl
    rcases List.mem_append.1 hl with hl | hl
    · rw [List.all_eq_true.1 List.all_takeWhile c hl] at hc
      cases hc
    · exact hl
  rw [trimWhere, List.mem_reverse]
  exact hdrop (List.mem_reverse.2 (hdrop h))

/-- texts without blanks at their ends have none there when they are joined -/
theorem trimWhere_intercalate (sep : Text) {l : List Text} (hl : ∀ w ∈ l, w ≠ [] ∧ trimWhere p w = w) :
    trimWhere p (sep.intercalate l) = sep.intercalate l := by
  refine trimWhere_of_ends ?_ ?_
  · cases l with
    | nil => nofun
    | cons w l =>
      obtain ⟨hne, hw⟩ := hl w List.mem_cons_self
      rw [intercalate_cons, List.head?_append_of_ne_nil w hne]
      exact (trimWhere_eq_self_iff.1 hw).1
  · cases l using List.reverseRecOn with
    | nil => nofun
    | append_singleton l w =>
      obtain ⟨hne, hw⟩ := hl w (List.mem_append_right l (List.mem_singleton.2 rfl))
      rw [intercalate_append_cons, List.flatMap_nil, List.append_nil, List.getLast?_append_of_ne_nil _ hne]
      exact (trimWhere_eq_self_iff.1 hw).2

end

theorem dropWhile_eq_self_of_prefix {p : Char → Bool} (h : a <+: s.dropWhile p) : a.dropWhile p = a := by
  cases a with
  | nil => rfl
  | cons d r =>
    obtain ⟨t, ht⟩ := h
    have hd : p d = false := by
      have hhead := List.head?_dropWhile_not p s
      rw [← ht] at hhead
      simpa using hhead
    rw [List.dropWhile_cons, if_neg (by simp [hd])]

/-- what is left when blanks are dropped has none to drop -/
theorem trim_trim (s : Text) : trim (trim s) = trim s := by
  have hfront : (trim s).dropWhile isBlank = trim s := by
    refine dropWhile_eq_self_of_prefix (s := s) ?_
    rw [trim, trimWhere, ← List.reverse_suffix, List.reverse_reverse]
    exact List.dropWhile_suffix _
  show (((trim s).dropWhile isBlank).reverse.dropWhile isBlank).reverse = trim s
  rw [hfront]
  show ((((s.dropWhile isBlank).reverse.dropWhile isBlank).reverse).reverse.dropWhile isBlank).reverse = _
  rw [List.reverse_reverse, dropWhile_eq_self_of_prefix (List.prefix_refl _)]
  rfl

end Mailroom.Text
