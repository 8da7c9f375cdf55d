import Mailroom.Proofs.Filter.Terms
import Mailroom.Proofs.Filter.Truth
import Mailroom.Proofs.Search.Reading

/-!
# The server and the evaluator agree

A filter can be asked of the server, as a search program, or of each message that was fetched.  Both
say the same of every message that has a number and on which no leaf fails, as long as no leaf asks for
a name.

* `written_of_compile`     every accepted filter has a search program that can be read;
* `fulfilled_ofLeaf`       the key of a leaf says what the leaf says;
* `fulfilled_ofTree`       the key of a tree says what the tree says;
* `read?_criteria_agrees`  the program of an accepted filter says what the filter says.
-/

namespace Mailroom.Search

variable {zone : Zone} {f : Fetched}

/-! ## accepted filters have programs -/

theorem written_date {s : Stamp} (hs : zone.toLocal s = .ok s) (keys : Criteria.DateKeys)
    (cmp : Comparison) : ∃ c, Criteria.date zone keys (some cmp) (.fixed s) = .ok c := by
  have hday : Criteria.day zone (.fixed s) = .ok s.reading.date.short :=
    bind_eq_ok.2 ⟨s, orFault_eq_ok.2 hs, rfl⟩
  refine exists_bind_eq_ok hday ?_
  cases cmp <;> exact ⟨_, rfl⟩

theorem written_key (value : Text) : ∃ s, Criteria.key (Filter.resolveAddress value) = .ok s := by
  unfold Filter.resolveAddress
  split <;> exact ⟨_, rfl⟩

theorem written_leaf {l : Leaf} (h : l.Resolved zone) :
    (∃ c, Criteria.leaf zone l = .ok c) ∧ l.Searchable := by
  cases l with
  | body | subject => exact ⟨⟨_, rfl⟩, trivial⟩
  | number => exact ⟨⟨_, rfl⟩, trivial⟩
  | sender t =>
    obtain ⟨value, rfl⟩ := h
    obtain ⟨s, hs⟩ := written_key value
    exact ⟨exists_bind_eq_ok hs ⟨_, rfl⟩, trivial⟩
  | recipient kind t =>
    obtain ⟨value, rfl⟩ := h
    obtain ⟨s, hs⟩ := written_key value
    exact ⟨exists_bind_eq_ok hs ⟨_, rfl⟩, trivial⟩
  | received cmp m | sent cmp m =>
    obtain ⟨⟨c, rfl⟩, s, rfl, hs⟩ := h
    exact ⟨written_date hs _ c, trivial⟩
  | size cmp n =>
    obtain ⟨hcmp, hn⟩ := h
    refine ⟨?_, hn⟩
    rcases hcmp with rfl | rfl <;> exact ⟨_, rfl⟩
  | flag name isSet => exact ⟨⟨_, rfl⟩, h⟩

theorem written_tree {t : Tree} (hw : t.IsWhole) (h : ∀ l ∈ t.leaves, l.Resolved zone) :
    ∃ c, t.criteria zone = .ok c := by
  induction t with
  | leaf l => exact (written_leaf (h l List.mem_cons_self)).1
  | neg l =>
    obtain ⟨c, hc⟩ := (written_leaf (h l List.mem_cons_self)).1
    exact exists_bind_eq_ok hc ⟨_, rfl⟩
  | conj a b iha ihb | disj a b iha ihb =>
    rw [Tree.leaves, List.forall_mem_append] at h
    obtain ⟨c, hc⟩ := iha hw.1 h.1
    obtain ⟨d, hd⟩ := ihb hw.2 h.2
    exact exists_bind_eq_ok hc (exists_bind_eq_ok hd ⟨_, rfl⟩)
  | stray v => exact absurd hw id

/-- every accepted filter has a search program that can be read -/
theorem written_of_compile {e : Text} {t : Tree} (h : Filter.compile zone e = .ok t) :
    (∃ c, t.criteria zone = .ok c) ∧ ∀ l ∈ t.leaves, l.Searchable := by
  have hleaves := Filter.resolved_of_compile h
  exact ⟨written_tree (Filter.isWhole_of_compile h) hleaves,
    fun l hl => (written_leaf (hleaves l hl)).2⟩

/-! ## keys say what leaves say -/

theorem occursIn_iff {w s : Text} : Text.occursIn w s = true ↔ w <:+: s := by
  induction s with
  | nil => rw [Text.occursIn, List.isEmpty_iff, List.infix_nil]
  | cons c r ih => rw [Text.occursIn, Bool.or_eq_true, ih, List.isPrefixOf_iff_prefix, List.infix_cons_iff]

theorem holdsPattern_iff {p s : Text} : holdsPattern p s = true ↔ Holds s p := occursIn_iff

theorem not_fulfilled_date {which : Dated} (h : which.of zone f = .ok none) (order : DayOrder)
    (day : Date) : ¬(Key.date which order day).Fulfilled zone f := by
  rintro ⟨s, a, hs, -⟩
  rw [h] at hs
  cases hs

theorem fulfilled_date_iff {which : Dated} {s a : Stamp} (hs : which.of zone f = .ok (some s))
    (ha : zone.toLocal s = .ok a) (order : DayOrder) (day : Date) :
    (Key.date which order day).Fulfilled zone f ↔ order.Between a.day day.toDays := by
  constructor
  · rintro ⟨s', a', hs', ha', ho⟩
    rw [hs] at hs'
    cases hs'
    rw [ha] at ha'
    cases ha'
    exact ho
  · intro ho
    exact ⟨s, a, hs, ha, ho⟩

theorem fulfilled_ofDate {which : Dated} {cmp : Option Comparison} {m : Moment} {k : Key} {b : Bool}
    {actual : Option Stamp} (hk : Key.ofDate zone which cmp m = .ok k)
    (hactual : which.of zone f = .ok actual) (h : Leaf.daysCompare zone cmp actual m = .ok b) :
    k.Fulfilled zone f ↔ b = true := by
  obtain ⟨w, hw, hk⟩ := bind_eq_ok.1 hk
  obtain ⟨-, -, -, hday⟩ := Zone.reading_localize (orFault_eq_ok.1 hw)
  cases actual with
  | none =>
    have hnone := not_fulfilled_date hactual
    cases h
    rw [iff_false_right Bool.false_ne_true]
    match cmp with
    | some .equal | some .atLeast =>
      cases hk
      exact hnone _ _
    | some .atMost =>
      cases hk
      exact not_or.2 ⟨hnone _ _, hnone _ _⟩
    | none => cases hk
  | some s =>
    obtain ⟨a, ha, h⟩ := bind_eq_ok.1 h
    obtain ⟨w', hw', h⟩ := bind_eq_ok.1 h
    rw [hw] at hw'
    cases hw'
    have hdate := fulfilled_date_iff hactual (orFault_eq_ok.1 ha)
    match cmp with
    | some .equal =>
      cases hk
      cases h
      rw [hdate, hday, beq_iff_eq]
      rfl
    | some .atLeast =>
      cases hk
      cases h
      rw [hdate, hday, decide_eq_true_eq]
      rfl
    | some .atMost =>
      cases hk
      cases h
      rw [Key.Fulfilled, hdate, hdate, hday, decide_eq_true_eq]
      show a.day < w.day ∨ a.day = w.day ↔ _
      omega
    | none => cases hk

theorem fulfilled_address {t : Target} {field s : Text} {b : Bool} (hs : Criteria.key t = .ok s)
    (hp : ∀ name, t ≠ .personal name) (h : f.message.addresses field >>= t.isAmong = .ok b) :
    (Key.address field s).Fulfilled zone f ↔ b = true := by
  obtain ⟨ms, hms, h⟩ := bind_eq_ok.1 h
  cases t with
  | personal name => exact absurd rfl (hp name)
  | stray v => cases hs
  | address a =>
    cases hs
    cases h
    rw [List.any_eq_true]
    simp only [Key.Fulfilled, hms, Except.ok.injEq, exists_eq_left', holdsPattern_iff]

theorem fulfilled_ofLeaf {l : Leaf} {k : Key} {b : Bool} (hk : Key.ofLeaf zone l = .ok k)
    (hl : l.Searchable) (hp : l.isPersonal = false) (hn : 1 ≤ f.number)
    (h : l.holds zone f = .ok b) : k.Fulfilled zone f ↔ b = true := by
  cases l with
  | body p =>
    cases hk
    obtain ⟨ts, hts, h⟩ := bind_eq_ok.1 h
    cases h
    simp only [Key.Fulfilled, hts, Except.ok.injEq, exists_eq_left', List.any_eq_true,
      holdsPattern_iff]
  | subject p =>
    cases hk
    obtain ⟨s, hs, h⟩ := bind_eq_ok.1 h
    cases h
    simp only [Key.Fulfilled, hs, Except.ok.injEq, exists_eq_left', holdsPattern_iff]
  | number n =>
    cases hk
    cases h
    rw [beq_iff_eq]
    by_cases hpos : 0 < n
    · rw [if_pos hpos]
      show f.number = (n.toNat : Int) ↔ _
      rw [Int.toNat_of_nonneg (by omega)]
    · rw [if_neg hpos]
      show ¬True ↔ _
      simp only [not_true, false_iff]
      omega
  | received cmp m => exact fulfilled_ofDate hk rfl h
  | sent cmp m =>
    obtain ⟨s, hs, h⟩ := bind_eq_ok.1 h
    exact fulfilled_ofDate hk hs h
  | sender t =>
    obtain ⟨s, hs, hk⟩ := bind_eq_ok.1 hk
    cases hk
    refine fulfilled_address hs ?_ h
    rintro name rfl
    cases hp
  | recipient kind t =>
    obtain ⟨s, hs, hk⟩ := bind_eq_ok.1 hk
    cases hk
    refine fulfilled_address hs ?_ h
    rintro name rfl
    cases hp
  | size cmp n =>
    have hbytes : (n.toNat : Int) = n := Int.toNat_of_nonneg hl
    match cmp with
    | some .atLeast =>
      cases hk
      cases h
      rw [decide_eq_true_eq]
      show ¬f.size < (n.toNat : Int) ↔ _
      rw [hbytes, Int.not_lt]
    | some .atMost =>
      cases hk
      cases h
      rw [decide_eq_true_eq]
      show ¬(n.toNat : Int) < f.size ↔ _
      rw [hbytes, Int.not_lt]
    | some .equal | none => cases hk
  | flag name isSet =>
    cases hk
    cases h
    rw [beq_iff_eq, Key.Fulfilled]
    cases isSet <;> simp

/-! ## keys say what trees say -/

/-- the key of a tree says what the tree says, of a message that has a number and on which no leaf
fails -/
theorem fulfilled_ofTree {t : Tree} {k : Key} (hk : Key.ofTree zone t = .ok k) (hn : 1 ≤ f.number)
    (hl : ∀ l ∈ t.leaves, l.Searchable ∧ l.isPersonal = false ∧ ∃ b, l.holds zone f = .ok b) :
    k.Fulfilled zone f ↔ t.Fulfilled zone f := by
  induction t generalizing k with
  | leaf l =>
    obtain ⟨hs, hp, b, hb⟩ := hl l List.mem_cons_self
    rw [fulfilled_ofLeaf hk hs hp hn hb, Tree.Fulfilled, hb, Except.ok.injEq]
  | neg l =>
    obtain ⟨k', hk', hk⟩ := bind_eq_ok.1 hk
    cases hk
    obtain ⟨hs, hp, b, hb⟩ := hl l List.mem_cons_self
    rw [Key.Fulfilled, fulfilled_ofLeaf hk' hs hp hn hb, Tree.Fulfilled, hb, Except.ok.injEq,
      Bool.not_eq_true]
  | conj a b iha ihb =>
    obtain ⟨ka, hka, hk⟩ := bind_eq_ok.1 hk
    obtain ⟨kb, hkb, hk⟩ := bind_eq_ok.1 hk
    cases hk
    rw [Tree.leaves, List.forall_mem_append] at hl
    rw [Key.Fulfilled, Tree.Fulfilled, iha hka hl.1, ihb hkb hl.2]
  | disj a b iha ihb =>
    obtain ⟨ka, hka, hk⟩ := bind_eq_ok.1 hk
    obtain ⟨kb, hkb, hk⟩ := bind_eq_ok.1 hk
    cases hk
    rw [Tree.leaves, List.forall_mem_append] at hl
    rw [Key.Fulfilled, Tree.Fulfilled, iha hka hl.1, ihb hkb hl.2]
  | stray v => cases hk

/-- **The server and the evaluator agree.**  An accepted filter that asks for no name has a search
program; a server reads it as a key, and on every message that has a number and on which no leaf fails
the key says what the evaluator answers. -/
theorem read?_criteria_agrees (zone : Zone) (f : Fetched) (e : Text) (t : Tree)
    (ht : Filter.compile zone e = .ok t) (hp : t.hasPersonal = false) (hn : 1 ≤ f.number)
    (hd : ∀ l ∈ t.leaves, ∃ b, l.holds zone f = .ok b) :
    ∃ program key b, t.criteria zone = .ok program ∧ read? program = some key ∧
      t.holds zone f = .ok b ∧ (b = true ↔ key.Fulfilled zone f) := by
  obtain ⟨⟨program, hprogram⟩, hs⟩ := written_of_compile ht
  obtain ⟨key, hkey, hread⟩ := read?_criteria hprogram hs
  obtain ⟨b, hb, hf⟩ := Tree.holds_iff_fulfilled (Filter.isWhole_of_compile ht) hd
  have hpersonal : ∀ l ∈ t.leaves, l.isPersonal = false := by
    simpa [Tree.hasPersonal] using hp
  exact ⟨program, key, b, hprogram, hread, hb,
    hf.trans (fulfilled_ofTree hkey hn fun l hl => ⟨hs l hl, hpersonal l hl, hd l hl⟩).symm⟩

theorem read?_criteria_markedMessage :
    Filter.compile .utc "subject:!hello+flag:!seen|number:3" = .ok Filter.sampleTree ∧
    ∃ program key b, Filter.sampleTree.criteria .utc = .ok program ∧ read? program = some key ∧
      Filter.sampleTree.holds .utc Filter.markedMessage = .ok b ∧
      (b = true ↔ key.Fulfilled .utc Filter.markedMessage) :=
  ⟨Filter.compile_sampleTree, read?_criteria_agrees .utc Filter.markedMessage _ _
    Filter.compile_sampleTree rfl (by decide) Filter.decided_sampleTree⟩

end Mailroom.Search
