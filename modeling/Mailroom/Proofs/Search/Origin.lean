import Mailroom.Proofs.Filter.Skeleton
import Mailroom.Proofs.Search.Line

/-!
# The tree that a search program was made of

A server reads the program of a tree as the key of the tree.  Every leaf has a key that tells it, up to
what a search cannot ask, and no key of a leaf looks like the key of a negation or a combination.

* `Leaf.SoughtAlike`   leaves that ask the same: texts, comparisons, sizes and flags are equal, dates lie
  on one local day, addresses may have different names, and numbers that no message has are one number;
* `Stands`             the key that stands for a leaf;
* `Key.isPart`         the keys that stand for leaves only together with others;
* `corresponds_of_ofTree`   trees with one key have one skeleton, and their leaves ask the same;
* `criteria_eq_iff_corresponds`   so do trees with one program.
-/

namespace Mailroom

/-- leaves that ask the same of a server -/
inductive Leaf.SoughtAlike (zone : Zone) : Leaf → Leaf → Prop where
  | body (p : Text) : SoughtAlike zone (.body p) (.body p)
  | subject (p : Text) : SoughtAlike zone (.subject p) (.subject p)
  | sender {t t' : Target} {s : Text} (h : Criteria.key t = .ok s) (h' : Criteria.key t' = .ok s) :
    SoughtAlike zone (.sender t) (.sender t')
  | recipient (kind : RecipientKind) {t t' : Target} {s : Text} (h : Criteria.key t = .ok s)
    (h' : Criteria.key t' = .ok s) : SoughtAlike zone (.recipient kind t) (.recipient kind t')
  | number (n : Int) : SoughtAlike zone (.number n) (.number n)
  | noNumber {n n' : Int} (h : n ≤ 0) (h' : n' ≤ 0) : SoughtAlike zone (.number n) (.number n')
  | received (cmp : Comparison) {m m' : Moment} {s s' : Stamp} (h : zone.localize m = .ok s)
    (h' : zone.localize m' = .ok s') (hday : s.reading.date = s'.reading.date) :
    SoughtAlike zone (.received (some cmp) m) (.received (some cmp) m')
  | sent (cmp : Comparison) {m m' : Moment} {s s' : Stamp} (h : zone.localize m = .ok s)
    (h' : zone.localize m' = .ok s') (hday : s.reading.date = s'.reading.date) :
    SoughtAlike zone (.sent (some cmp) m) (.sent (some cmp) m')
  | size (cmp : Option Comparison) (n : Int) : SoughtAlike zone (.size cmp n) (.size cmp n)
  | flag (name : Text) (isSet : Bool) : SoughtAlike zone (.flag name isSet) (.flag name isSet)

namespace Search

variable {zone : Zone} {l l' : Leaf} {t t' : Tree} {k k' : Key}

/-! ## atoms that are flags -/

theorem isKeyword_of_isAtom {name : Text} (h : IsAtom name) : Filter.isKeyword name = true := by
  have hall : ∀ n : Fin 128, isAtomic (Char.ofNat n.val) = true →
      (Address.isAlnum (Char.ofNat n.val) || Filter.keywordMarks.contains (Char.ofNat n.val)) = true := by
    decide
  obtain ⟨hne, hatomic⟩ := h
  rw [Filter.isKeyword, Bool.and_eq_true]
  refine ⟨by simpa using hne, List.all_eq_true.2 ?_⟩
  intro c hc
  have hmark := List.all_eq_true.1 hatomic c hc
  have hrange : c.toNat < 128 := by
    simp only [isAtomic, Bool.and_eq_true, decide_eq_true_eq] at hmark
    omega
  have h := hall ⟨c.toNat, hrange⟩
  rw [Char.ofNat_toNat] at h
  exact h hmark

/-- every atom of the mail protocol is a flag that a program can hold -/
theorem searchable_flag {name : Text} (h : IsAtom name) (isSet : Bool) :
    (Leaf.flag name isSet).Searchable := .inr (.inr (isKeyword_of_isAtom h))

/-! ## keys of leaves -/

/-- the key that stands for a leaf -/
inductive Stands (zone : Zone) : Leaf → Key → Prop where
  | body (p : Text) : Stands zone (.body p) (.body p)
  | subject (p : Text) : Stands zone (.subject p) (.subject p)
  | sender {who : Target} {field s : Text} (hs : Criteria.key who = .ok s) (hf : field = "From") :
    Stands zone (.sender who) (.address field s)
  | recipient {kind : RecipientKind} {who : Target} {field s : Text} (hs : Criteria.key who = .ok s)
    (hf : field = Leaf.recipientField kind) : Stands zone (.recipient kind who) (.address field s)
  | number {n : Int} {i : Nat} (hi : n = i) : Stands zone (.number n) (.number i)
  | noNumber {n : Int} (hn : n ≤ 0) : Stands zone (.number n) (.neg .all)
  | receivedOn {m : Moment} {s : Stamp} {d : Date} (hs : zone.localize m = .ok s)
    (hd : s.reading.date = d) :
    Stands zone (.received (some .equal) m) (.date .received .on d)
  | receivedFrom {m : Moment} {s : Stamp} {d : Date} (hs : zone.localize m = .ok s)
    (hd : s.reading.date = d) :
    Stands zone (.received (some .atLeast) m) (.date .received .since d)
  | receivedUntil {m : Moment} {s : Stamp} {d : Date} (hs : zone.localize m = .ok s)
    (hd : s.reading.date = d) :
    Stands zone (.received (some .atMost) m)
      (.disj (.date .received .before d) (.date .received .on d))
  | sentOn {m : Moment} {s : Stamp} {d : Date} (hs : zone.localize m = .ok s)
    (hd : s.reading.date = d) : Stands zone (.sent (some .equal) m) (.date .sent .on d)
  | sentFrom {m : Moment} {s : Stamp} {d : Date} (hs : zone.localize m = .ok s)
    (hd : s.reading.date = d) : Stands zone (.sent (some .atLeast) m) (.date .sent .since d)
  | sentUntil {m : Moment} {s : Stamp} {d : Date} (hs : zone.localize m = .ok s)
    (hd : s.reading.date = d) :
    Stands zone (.sent (some .atMost) m) (.disj (.date .sent .before d) (.date .sent .on d))
  | atLeast {n : Int} {i : Nat} (hi : n = i) :
    Stands zone (.size (some .atLeast) n) (.neg (.smaller i))
  | atMost {n : Int} {i : Nat} (hi : n = i) :
    Stands zone (.size (some .atMost) n) (.neg (.larger i))
  | flag (name : Text) (isSet : Bool) : Stands zone (.flag name isSet) (.flag name isSet)

theorem stands_of_ofLeaf (h : Key.ofLeaf zone l = .ok k) (hl : l.Searchable) : Stands zone l k := by
  cases l with
  | body p =>
    cases h
    exact .body p
  | subject p =>
    cases h
    exact .subject p
  | sender who =>
    obtain ⟨s, hs, hk⟩ := bind_eq_ok.1 h
    cases hk
    exact .sender hs rfl
  | recipient kind who =>
    obtain ⟨s, hs, hk⟩ := bind_eq_ok.1 h
    cases hk
    exact .recipient hs rfl
  | number n =>
    cases h
    by_cases hn : 0 < n
    · rw [if_pos hn]
      exact .number (by omega)
    · rw [if_neg hn]
      exact .noNumber (by omega)
  | received cmp m =>
    obtain ⟨s, hs, hk⟩ := bind_eq_ok.1 h
    have hs := orFault_eq_ok.1 hs
    match cmp with
    | none => cases hk
    | some .equal =>
      cases hk
      exact .receivedOn hs rfl
    | some .atLeast =>
      cases hk
      exact .receivedFrom hs rfl
    | some .atMost =>
      cases hk
      exact .receivedUntil hs rfl
  | sent cmp m =>
    obtain ⟨s, hs, hk⟩ := bind_eq_ok.1 h
    have hs := orFault_eq_ok.1 hs
    match cmp with
    | none => cases hk
    | some .equal =>
      cases hk
      exact .sentOn hs rfl
    | some .atLeast =>
      cases hk
      exact .sentFrom hs rfl
    | some .atMost =>
      cases hk
      exact .sentUntil hs rfl
  | size cmp n =>
    have hn : 0 ≤ n := hl
    match cmp with
    | none | some .equal => cases h
    | some .atLeast =>
      cases h
      exact .atLeast (by omega)
    | some .atMost =>
      cases h
      exact .atMost (by omega)
  | flag name isSet =>
    cases h
    exact .flag name isSet

theorem recipientField_inj {kind kind' : RecipientKind}
    (h : Leaf.recipientField kind = Leaf.recipientField kind') : kind = kind' := by
  cases kind <;> cases kind' <;> first | rfl | exact absurd h (by decide)

/-- the key of a leaf tells the leaf -/
theorem soughtAlike_of_stands (h : Stands zone l k) (h' : Stands zone l' k) :
    l.SoughtAlike zone l' := by
  have hfrom : ∀ kind, Leaf.recipientField kind ≠ "From" := by
    intro kind
    cases kind <;> decide
  cases h with
  | body p =>
    cases h'
    exact .body p
  | subject p =>
    cases h'
    exact .subject p
  | sender hs hf =>
    cases h' with
    | sender hs' hf' => exact .sender hs hs'
    | recipient hs' hf' => exact absurd (hf'.symm.trans hf) (hfrom _)
  | recipient hs hf =>
    cases h' with
    | sender hs' hf' => exact absurd (hf.symm.trans hf') (hfrom _)
    | recipient hs' hf' =>
      cases recipientField_inj (hf.symm.trans hf')
      exact .recipient _ hs hs'
  | number hi =>
    cases h' with
    | number hi' =>
      rw [hi, hi']
      exact .number _
  | noNumber hn =>
    cases h' with
    | noNumber hn' => exact .noNumber hn hn'
  | receivedOn hs hd =>
    cases h' with
    | receivedOn hs' hd' => exact .received _ hs hs' (hd.trans hd'.symm)
  | receivedFrom hs hd =>
    cases h' with
    | receivedFrom hs' hd' => exact .received _ hs hs' (hd.trans hd'.symm)
  | receivedUntil hs hd =>
    cases h' with
    | receivedUntil hs' hd' => exact .received _ hs hs' (hd.trans hd'.symm)
  | sentOn hs hd =>
    cases h' with
    | sentOn hs' hd' => exact .sent _ hs hs' (hd.trans hd'.symm)
  | sentFrom hs hd =>
    cases h' with
    | sentFrom hs' hd' => exact .sent _ hs hs' (hd.trans hd'.symm)
  | sentUntil hs hd =>
    cases h' with
    | sentUntil hs' hd' => exact .sent _ hs hs' (hd.trans hd'.symm)
  | atLeast hi =>
    cases h' with
    | atLeast hi' =>
      rw [hi, hi']
      exact .size _ _
  | atMost hi =>
    cases h' with
    | atMost hi' =>
      rw [hi, hi']
      exact .size _ _
  | flag name isSet =>
    cases h'
    exact .flag name isSet

/-! ## keys of trees -/

/-- a key that stands for a leaf only behind `NOT` or `OR` -/
def Key.isPart : Key → Bool
  | all | smaller _ | larger _ | date _ .before _ => true
  | _ => false

theorem isPart_of_stands (h : Stands zone l k) : k.isPart = false := by
  cases h <;> rfl

theorem exists_of_ofTree_neg (h : Key.ofTree zone (.neg l) = .ok k) :
    ∃ a, Key.ofLeaf zone l = .ok a ∧ k = .neg a := by
  obtain ⟨a, ha, h⟩ := bind_eq_ok.1 h
  exact ⟨a, ha, (Except.ok.inj h).symm⟩

section
variable {a b : Tree}

theorem exists_of_ofTree_conj (h : Key.ofTree zone (.conj a b) = .ok k) :
    ∃ x y, Key.ofTree zone a = .ok x ∧ Key.ofTree zone b = .ok y ∧ k = .conj x y := by
  obtain ⟨x, hx, h⟩ := bind_eq_ok.1 h
  obtain ⟨y, hy, h⟩ := bind_eq_ok.1 h
  exact ⟨x, y, hx, hy, (Except.ok.inj h).symm⟩

theorem exists_of_ofTree_disj (h : Key.ofTree zone (.disj a b) = .ok k) :
    ∃ x y, Key.ofTree zone a = .ok x ∧ Key.ofTree zone b = .ok y ∧ k = .disj x y := by
  obtain ⟨x, hx, h⟩ := bind_eq_ok.1 h
  obtain ⟨y, hy, h⟩ := bind_eq_ok.1 h
  exact ⟨x, y, hx, hy, (Except.ok.inj h).symm⟩

end

theorem isPart_of_ofTree (h : Key.ofTree zone t = .ok k) (ht : ∀ l ∈ t.leaves, l.Searchable) :
    k.isPart = false := by
  cases t with
  | leaf l => exact isPart_of_stands (stands_of_ofLeaf h (ht l List.mem_cons_self))
  | neg l =>
    obtain ⟨a, -, rfl⟩ := exists_of_ofTree_neg h
    rfl
  | conj a b =>
    obtain ⟨x, y, -, -, rfl⟩ := exists_of_ofTree_conj h
    rfl
  | disj a b =>
    obtain ⟨x, y, -, -, rfl⟩ := exists_of_ofTree_disj h
    rfl
  | stray v => cases h

/-! A tree has the form of its key, unless the key stands for a leaf; then the first part of the key
stands for none. -/

section
variable (ht : ∀ l ∈ t.leaves, l.Searchable)
include ht

theorem exists_leaf_of_ofTree (h : Key.ofTree zone t = .ok k) (hk : Stands zone l k) :
    ∃ l', t = .leaf l' := by
  cases t with
  | leaf l' => exact ⟨l', rfl⟩
  | neg l' =>
    obtain ⟨a, ha, rfl⟩ := exists_of_ofTree_neg h
    have hpart := isPart_of_stands (stands_of_ofLeaf ha (ht l' List.mem_cons_self))
    cases hk <;> cases hpart
  | conj a b =>
    obtain ⟨x, y, -, -, rfl⟩ := exists_of_ofTree_conj h
    cases hk
  | disj a b =>
    obtain ⟨x, y, hx, -, rfl⟩ := exists_of_ofTree_disj h
    rw [Tree.leaves, List.forall_mem_append] at ht
    have hpart := isPart_of_ofTree hx ht.1
    cases hk <;> cases hpart
  | stray v => cases h

theorem exists_neg_of_ofTree (h : Key.ofTree zone t = .ok (.neg k)) (hk : k.isPart = false) :
    ∃ l, t = .neg l ∧ Key.ofLeaf zone l = .ok k := by
  cases t with
  | leaf l => cases stands_of_ofLeaf h (ht l List.mem_cons_self) <;> cases hk
  | neg l =>
    obtain ⟨a, ha, e⟩ := exists_of_ofTree_neg h
    cases e
    exact ⟨l, rfl, ha⟩
  | conj a b =>
    obtain ⟨x, y, -, -, e⟩ := exists_of_ofTree_conj h
    cases e
  | disj a b =>
    obtain ⟨x, y, -, -, e⟩ := exists_of_ofTree_disj h
    cases e
  | stray v => cases h

theorem exists_conj_of_ofTree (h : Key.ofTree zone t = .ok (.conj k k')) :
    ∃ a b, t = .conj a b ∧ Key.ofTree zone a = .ok k ∧ Key.ofTree zone b = .ok k' := by
  cases t with
  | leaf l => cases stands_of_ofLeaf h (ht l List.mem_cons_self)
  | neg l =>
    obtain ⟨a, -, e⟩ := exists_of_ofTree_neg h
    cases e
  | conj a b =>
    obtain ⟨x, y, hx, hy, e⟩ := exists_of_ofTree_conj h
    cases e
    exact ⟨a, b, rfl, hx, hy⟩
  | disj a b =>
    obtain ⟨x, y, -, -, e⟩ := exists_of_ofTree_disj h
    cases e
  | stray v => cases h

theorem exists_disj_of_ofTree (h : Key.ofTree zone t = .ok (.disj k k')) (hk : k.isPart = false) :
    ∃ a b, t = .disj a b ∧ Key.ofTree zone a = .ok k ∧ Key.ofTree zone b = .ok k' := by
  cases t with
  | leaf l => cases stands_of_ofLeaf h (ht l List.mem_cons_self) <;> cases hk
  | neg l =>
    obtain ⟨a, -, e⟩ := exists_of_ofTree_neg h
    cases e
  | conj a b =>
    obtain ⟨x, y, -, -, e⟩ := exists_of_ofTree_conj h
    cases e
  | disj a b =>
    obtain ⟨x, y, hx, hy, e⟩ := exists_of_ofTree_disj h
    cases e
    exact ⟨a, b, rfl, hx, hy⟩
  | stray v => cases h

end

/-- trees with one key have the same combinations, and leaves that ask the same -/
theorem corresponds_of_ofTree (h : Key.ofTree zone t = .ok k) (h' : Key.ofTree zone t' = .ok k)
    (ht : ∀ l ∈ t.leaves, l.Searchable) (ht' : ∀ l ∈ t'.leaves, l.Searchable) :
    t.Corresponds (Leaf.SoughtAlike zone) t' := by
  -- on the first tree; the keys of its subtrees are in its key, and the second tree follows the key
  induction t generalizing t' k with
  | leaf l =>
    have hstands := stands_of_ofLeaf h (ht l List.mem_cons_self)
    obtain ⟨l', rfl⟩ := exists_leaf_of_ofTree ht' h' hstands
    exact .leaf (soughtAlike_of_stands hstands (stands_of_ofLeaf h' (ht' l' List.mem_cons_self)))
  | neg l =>
    obtain ⟨a, ha, rfl⟩ := exists_of_ofTree_neg h
    have hstands := stands_of_ofLeaf ha (ht l List.mem_cons_self)
    obtain ⟨l', rfl, ha'⟩ := exists_neg_of_ofTree ht' h' (isPart_of_stands hstands)
    exact .neg (soughtAlike_of_stands hstands (stands_of_ofLeaf ha' (ht' l' List.mem_cons_self)))
  | conj a b iha ihb =>
    obtain ⟨x, y, hx, hy, rfl⟩ := exists_of_ofTree_conj h
    obtain ⟨a', b', rfl, hx', hy'⟩ := exists_conj_of_ofTree ht' h'
    rw [Tree.leaves, List.forall_mem_append] at ht ht'
    exact .conj (iha hx hx' ht.1 ht'.1) (ihb hy hy' ht.2 ht'.2)
  | disj a b iha ihb =>
    obtain ⟨x, y, hx, hy, rfl⟩ := exists_of_ofTree_disj h
    rw [Tree.leaves, List.forall_mem_append] at ht
    obtain ⟨a', b', rfl, hx', hy'⟩ := exists_disj_of_ofTree ht' h' (isPart_of_ofTree hx ht.1)
    rw [Tree.leaves, List.forall_mem_append] at ht'
    exact .disj (iha hx hx' ht.1 ht'.1) (ihb hy hy' ht.2 ht'.2)
  | stray v => cases h

/-! ## programs of trees -/

theorem date_eq_of_localize {keys : Criteria.DateKeys} (cmp : Option Comparison) {m m' : Moment}
    {s s' : Stamp} (h : zone.localize m = .ok s) (h' : zone.localize m' = .ok s')
    (hday : s.reading.date = s'.reading.date) :
    Criteria.date zone keys cmp m = Criteria.date zone keys cmp m' := by
  have hsame : Criteria.day zone m = Criteria.day zone m' := by
    simp only [Criteria.day, h, h']
    show Except.ok s.reading.date.short = .ok s'.reading.date.short
    rw [hday]
  rw [Criteria.date, Criteria.date, hsame]

theorem leaf_eq_of_soughtAlike (h : l.SoughtAlike zone l') :
    Criteria.leaf zone l = Criteria.leaf zone l' := by
  cases h with
  | body p | subject p | number n | size cmp n | flag name isSet => rfl
  | noNumber hn hn' => rw [Criteria.leaf, Criteria.leaf, if_neg (by omega), if_neg (by omega)]
  | sender hs hs' | recipient kind hs hs' => rw [Criteria.leaf, Criteria.leaf, hs, hs']
  | received cmp hs hs' hday | sent cmp hs hs' hday => exact date_eq_of_localize _ hs hs' hday

theorem criteria_eq_of_corresponds (h : t.Corresponds (Leaf.SoughtAlike zone) t') :
    t.criteria zone = t'.criteria zone := by
  induction h with
  | leaf h => exact leaf_eq_of_soughtAlike h
  | neg h => rw [Tree.criteria, Tree.criteria, leaf_eq_of_soughtAlike h]
  | conj _ _ iha ihb | disj _ _ iha ihb => rw [Tree.criteria, Tree.criteria, iha, ihb]

/-- **Origins.**  Trees have one search program exactly if they have the same combinations in the same
places and at each place leaves that ask the same, whatever characters stand in their texts. -/
theorem criteria_eq_iff_corresponds (zone : Zone) (t t' : Tree) (program : Text)
    (ht : ∀ l ∈ t.leaves, l.Searchable) (ht' : ∀ l ∈ t'.leaves, l.Searchable)
    (h : t.criteria zone = .ok program) :
    t'.criteria zone = .ok program ↔ t.Corresponds (Leaf.SoughtAlike zone) t' := by
  constructor
  · intro h'
    obtain ⟨k, hk, hread⟩ := read?_criteria h ht
    obtain ⟨k', hk', hread'⟩ := read?_criteria h' ht'
    cases hread.symm.trans hread'
    exact corresponds_of_ofTree hk hk' ht ht'
  · intro hsame
    exact (criteria_eq_of_corresponds hsame).symm.trans h

/-- a tree with quotes, backslashes and parentheses in its texts, and a flag that is an atom -/
def escapingTree (who : Target) (n instant : Int) : Tree :=
  .conj (.disj (.leaf (.subject "\\\") (OR (")) (.neg (.number n)))
    (.conj (.conj (.leaf (.sender who)) (.leaf (.flag "$a[b" false)))
      (.leaf (.received (some .atMost) (.fixed ⟨instant, 0, 0⟩))))

def escapingProgram : Text :=
  "((OR (SUBJECT \"\\\\\\\") (OR (\") (NOT (NOT ALL)))" ++
    " (((FROM \"x\\\"@y\") (UNKEYWORD $a[b)) (OR (BEFORE 1-Jan-1970) (ON 1-Jan-1970))))"

/-- names, numbers that no message has and times of one day are lost -/
theorem criteria_escapingTree :
    (escapingTree (.address ⟨"x\"@y", "Ann"⟩) 0 0).criteria .utc = .ok escapingProgram ∧
    (escapingTree (.personal "x\"@y") (-3) 86399).criteria .utc = .ok escapingProgram ∧
    (escapingTree (.address ⟨"x\"@y", "Ann"⟩) 0 0).Corresponds (Leaf.SoughtAlike .utc)
      (escapingTree (.personal "x\"@y") (-3) 86399) := by
  have h : (escapingTree (.address ⟨"x\"@y", "Ann"⟩) 0 0).criteria .utc = .ok escapingProgram := by
    decide
  have h' : (escapingTree (.personal "x\"@y") (-3) 86399).criteria .utc = .ok escapingProgram := by
    decide
  have hsearchable : ∀ who n instant, ∀ l ∈ (escapingTree who n instant).leaves, l.Searchable := by
    intro who n instant l hl
    simp only [escapingTree, Tree.leaves, List.cons_append, List.nil_append, List.mem_cons,
      List.not_mem_nil, or_false] at hl
    rcases hl with rfl | rfl | rfl | rfl | rfl
    · trivial
    · trivial
    · trivial
    · exact searchable_flag (by decide) false
    · trivial
  have hiff := criteria_eq_iff_corresponds .utc _ _ _ (hsearchable _ _ _)
    (hsearchable (.personal "x\"@y") (-3) 86399) h
  exact ⟨h, h', hiff.1 h'⟩

end Search
end Mailroom
