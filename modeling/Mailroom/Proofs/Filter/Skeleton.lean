import Mailroom.Proofs.Filter.Wording

/-!
# The skeleton of a description

Combinations stand between parentheses and a leaf ends behind what it quotes.  Where the ends of the
leaves can be told, a description has one reading.

* `Tree.Corresponds`   the same combinations in the same places, and a relation between the leaves;
* `Tree.Joined`        combinations with their words;
* `readOnce_of_joined`   a combination can be read if its parts can;
* `corresponds_of_describe`   if it can be told where a leaf ends, it can be told where a tree ends, and
  the leaves of two trees with one description correspond;
* `Leaf.Quoteless`     a leaf without quotes in what was typed;
* `Leaf.SaidAlike`     leaves with the same words and the same quoted text;
* `describe_eq_iff_corresponds`   trees of such leaves have one description exactly if they have one
  skeleton and their leaves are said alike.
-/

namespace Mailroom

variable {zone : Zone}

namespace Tree

/-! ## trees of the same shape -/

/-- the same combinations in the same places, with `R` between the leaves at each place -/
inductive Corresponds (R : Leaf → Leaf → Prop) : Tree → Tree → Prop where
  | leaf {l l' : Leaf} (h : R l l') : Corresponds R (leaf l) (leaf l')
  | neg {l l' : Leaf} (h : R l l') : Corresponds R (neg l) (neg l')
  | conj {a b a' b' : Tree} (ha : Corresponds R a a') (hb : Corresponds R b b') :
    Corresponds R (conj a b) (conj a' b')
  | disj {a b a' b' : Tree} (ha : Corresponds R a a') (hb : Corresponds R b b') :
    Corresponds R (disj a b) (disj a' b')

/-! ## combinations in words -/

/-- the first character of a description, where it tells a combination or a negation from a leaf -/
def mark : Tree → Option Char
  | conj _ _ | disj _ _ => some '('
  | neg _ => some 'n'
  | leaf _ | stray _ => none

variable {a b t t' : Tree} {r r' s s' : Text}

theorem joined_eq_ok {x y : Except Fault Text} {word : Text} :
    (do return "(" ++ (← x) ++ word ++ (← y) ++ ")") = Except.ok s ↔
      ∃ u v, x = .ok u ∧ y = .ok v ∧ s = '(' :: (u ++ (word ++ (v ++ ")"))) := by
  constructor
  · intro h
    obtain ⟨u, hu, h⟩ := bind_eq_ok.1 h
    obtain ⟨v, hv, h⟩ := bind_eq_ok.1 h
    cases h
    exact ⟨u, v, hu, hv, by simp⟩
  · rintro ⟨u, v, hu, hv, rfl⟩
    refine bind_eq_ok.2 ⟨u, hu, bind_eq_ok.2 ⟨v, hv, ?_⟩⟩
    exact congrArg Except.ok (by simp)

theorem describe_conj_eq_ok : (conj a b).describe zone = .ok s ↔
    ∃ u v, a.describe zone = .ok u ∧ b.describe zone = .ok v ∧
      s = '(' :: (u ++ (" and " ++ (v ++ ")"))) := joined_eq_ok

theorem describe_disj_eq_ok : (disj a b).describe zone = .ok s ↔
    ∃ u v, a.describe zone = .ok u ∧ b.describe zone = .ok v ∧
      s = '(' :: (u ++ (" or " ++ (v ++ ")"))) := joined_eq_ok

theorem describe_neg_eq_ok {l : Leaf} :
    (neg l).describe zone = .ok s ↔ ∃ u, l.describe zone = .ok u ∧ s = "not " ++ u := by
  constructor
  · intro h
    obtain ⟨u, hu, h⟩ := bind_eq_ok.1 h
    exact ⟨u, hu, (Except.ok.inj h).symm⟩
  · intro h
    obtain ⟨u, hu, hs⟩ := h
    exact bind_eq_ok.2 ⟨u, hu, congrArg Except.ok hs.symm⟩

theorem mark_of_describe (h : t.describe zone = .ok s) :
    ∃ c u, s = c :: u ∧ t.mark = if c = '(' ∨ c = 'n' then some c else none := by
  cases t with
  | leaf l =>
    obtain ⟨w, q, -, -, hs⟩ := worded_of_describe h
    obtain ⟨c, u, hword, hc⟩ := w.exists_head
    rw [hword, List.cons_append] at hs
    exact ⟨c, _, hs, (if_neg (not_or.2 hc)).symm⟩
  | neg l =>
    obtain ⟨x, -, hs⟩ := describe_neg_eq_ok.1 h
    exact ⟨'n', "ot " ++ x, hs, rfl⟩
  | conj a b =>
    obtain ⟨x, y, -, -, hs⟩ := describe_conj_eq_ok.1 h
    exact ⟨'(', _, hs, rfl⟩
  | disj a b =>
    obtain ⟨x, y, -, -, hs⟩ := describe_disj_eq_ok.1 h
    exact ⟨'(', _, hs, rfl⟩
  | stray v => cases h

theorem mark_eq (hs : t.describe zone = .ok s) (hs' : t'.describe zone = .ok s')
    (h : s ++ r = s' ++ r') : t.mark = t'.mark := by
  obtain ⟨c, u, rfl, hmark⟩ := mark_of_describe hs
  obtain ⟨c', u', rfl, hmark'⟩ := mark_of_describe hs'
  obtain ⟨hc, -⟩ := List.cons.inj h
  rw [hmark, hmark', hc]

/-- a combination of two trees, with the word between their descriptions -/
inductive Joined : Tree → Text → Tree → Tree → Prop where
  | conj (a b : Tree) : Joined (conj a b) " and " a b
  | disj (a b : Tree) : Joined (disj a b) " or " a b

theorem exists_joined (h : t.mark = some '(') : ∃ word a b, Joined t word a b := by
  cases t with
  | conj a b => exact ⟨_, a, b, .conj a b⟩
  | disj a b => exact ⟨_, a, b, .disj a b⟩
  | leaf | neg | stray => cases h

namespace Joined

variable {word word' : Text} {a' b' : Tree} {R : Leaf → Leaf → Prop}

theorem mark (h : Joined t word a b) : t.mark = some '(' := by
  cases h <;> rfl

theorem leaves_eq (h : Joined t word a b) : t.leaves = a.leaves ++ b.leaves := by
  cases h <;> rfl

theorem describe_eq_ok (h : Joined t word a b) : t.describe zone = .ok s ↔
    ∃ u v, a.describe zone = .ok u ∧ b.describe zone = .ok v ∧
      s = '(' :: (u ++ (word ++ (v ++ ")"))) := by
  cases h with
  | conj => exact describe_conj_eq_ok
  | disj => exact describe_disj_eq_ok

theorem follows (h : Joined t word a b) (u : Text) : Follows (word ++ u) := by
  cases h with
  | conj => exact .inr ⟨" and ", by decide, u, rfl⟩
  | disj => exact .inr ⟨" or ", by decide, u, rfl⟩

/-- the word tells the combination -/
theorem corresponds (h : Joined t word a b) (h' : Joined t' word' a' b')
    (hword : word ++ r = word' ++ r') (ha : a.Corresponds R a') :
    r = r' ∧ (b.Corresponds R b' → t.Corresponds R t') := by
  cases h with
  | conj =>
    cases h' with
    | conj => exact ⟨List.append_cancel_left hword, .conj ha⟩
    | disj => simp at hword
  | disj =>
    cases h' with
    | conj => simp at hword
    | disj => exact ⟨List.append_cancel_left hword, .disj ha⟩

end Joined

/-! ## one description -/

section
variable {P : Leaf → Prop} {R : Leaf → Leaf → Prop}

/-- what ends the description of a leaf, whatever can follow a term behind it -/
def EndsTold (zone : Zone) (P : Leaf → Prop) (R : Leaf → Leaf → Prop) : Prop :=
  ∀ l l' s s' r r', P l → P l' → l.describe zone = .ok s → l'.describe zone = .ok s' →
    Follows r → Follows r' → s ++ r = s' ++ r' → r = r' ∧ R l l'

/-- the same for the description of one tree; what is behind a subtree is the rest of the description of
the tree around it -/
def ReadOnce (zone : Zone) (P : Leaf → Prop) (R : Leaf → Leaf → Prop) (t : Tree) : Prop :=
  ∀ t' s s' r r', (∀ l ∈ t'.leaves, P l) → t.describe zone = .ok s → t'.describe zone = .ok s' →
    Follows r → Follows r' → s ++ r = s' ++ r' → r = r' ∧ t.Corresponds R t'

theorem readOnce_leaf {l : Leaf} (hleaf : EndsTold zone P R) (hl : P l) :
    ReadOnce zone P R (leaf l) := by
  intro t' s s' r r' hp' hs hs' hr hr' h
  have hmark := mark_eq hs hs' h
  cases t' with
  | leaf l' =>
    obtain ⟨hrest, hsame⟩ := hleaf l l' s s' r r' hl (hp' l' List.mem_cons_self) hs hs' hr hr' h
    exact ⟨hrest, .leaf hsame⟩
  | stray v => cases hs'
  | neg | conj | disj => cases hmark

theorem readOnce_neg {l : Leaf} (hleaf : EndsTold zone P R) (hl : P l) :
    ReadOnce zone P R (neg l) := by
  intro t' s s' r r' hp' hs hs' hr hr' h
  have hmark := mark_eq hs hs' h
  cases t' with
  | neg l' =>
    obtain ⟨x, hx, rfl⟩ := describe_neg_eq_ok.1 hs
    obtain ⟨x', hx', rfl⟩ := describe_neg_eq_ok.1 hs'
    rw [List.append_assoc, List.append_assoc] at h
    obtain ⟨hrest, hsame⟩ := hleaf l l' x x' r r' hl (hp' l' List.mem_cons_self) hx hx' hr hr'
      (List.append_cancel_left h)
    exact ⟨hrest, .neg hsame⟩
  | leaf | conj | disj | stray => cases hmark

/-- the first parts of combinations end at the same place, and there the word tells which they are -/
theorem readOnce_of_joined {word : Text} (hj : Joined t word a b) (ha : ReadOnce zone P R a)
    (hb : ReadOnce zone P R b) : ReadOnce zone P R t := by
  intro t' s s' r r' hp' hs hs' hr hr' h
  have hclose : ∀ u : Text, Follows (")" ++ u) := fun u => .inr ⟨")", by decide, u, rfl⟩
  obtain ⟨word', a', b', hj'⟩ := exists_joined ((mark_eq hs hs' h).symm.trans hj.mark)
  obtain ⟨x, y, hx, hy, rfl⟩ := hj.describe_eq_ok.1 hs
  obtain ⟨x', y', hx', hy', rfl⟩ := hj'.describe_eq_ok.1 hs'
  rw [hj'.leaves_eq, List.forall_mem_append] at hp'
  simp only [List.cons_append, List.append_assoc] at h
  obtain ⟨hmid, hfirst⟩ := ha a' x x' _ _ hp'.1 hx hx' (hj.follows _) (hj'.follows _) (List.cons.inj h).2
  obtain ⟨hbehind, hsame⟩ := hj.corresponds hj' hmid hfirst
  obtain ⟨hend, hsecond⟩ := hb b' y y' _ _ hp'.2 hy hy' (hclose r) (hclose r') hbehind
  exact ⟨List.append_cancel_left hend, hsame hsecond⟩

/-- descriptions with something behind them that can follow a term end at the same place, if those of
their leaves do, and their trees correspond -/
theorem corresponds_of_describe (hleaf : EndsTold zone P R) (hp : ∀ l ∈ t.leaves, P l)
    (hp' : ∀ l ∈ t'.leaves, P l) (hs : t.describe zone = .ok s) (hs' : t'.describe zone = .ok s')
    (hr : Follows r) (hr' : Follows r') (h : s ++ r = s' ++ r') : r = r' ∧ t.Corresponds R t' := by
  suffices hread : ReadOnce zone P R t from hread t' s s' r r' hp' hs hs' hr hr' h
  clear hs h
  induction t with
  | leaf l => exact readOnce_leaf hleaf (hp l List.mem_cons_self)
  | neg l => exact readOnce_neg hleaf (hp l List.mem_cons_self)
  | conj a b iha ihb =>
    rw [leaves, List.forall_mem_append] at hp
    exact readOnce_of_joined (.conj a b) (iha hp.1) (ihb hp.2)
  | disj a b iha ihb =>
    rw [leaves, List.forall_mem_append] at hp
    exact readOnce_of_joined (.disj a b) (iha hp.1) (ihb hp.2)
  | stray v =>
    intro t' s s' r r' hp' hs
    cases hs

/-- the other way round: trees are described alike if their leaves are -/
theorem describe_eq_of_corresponds (hleaf : ∀ l l', R l l' → l.describe zone = l'.describe zone)
    (h : t.Corresponds R t') : t.describe zone = t'.describe zone := by
  induction h with
  | leaf h => exact hleaf _ _ h
  | neg h => rw [describe, describe, hleaf _ _ h]
  | conj _ _ iha ihb | disj _ _ iha ihb => rw [describe, describe, iha, ihb]

end
end Tree

/-! ## leaves without quotes -/

/-- an address or a name without quotes -/
def Target.Quoteless : Target → Prop
  | address a => '"' ∉ a.addrSpec ∧ '"' ∉ a.displayName
  | personal name => '"' ∉ name
  | stray _ => True

theorem Target.not_mem_describe {t : Target} {q : Text} (ht : t.Quoteless) (h : t.describe = .ok q) :
    '"' ∉ q := by
  cases t with
  | address a =>
    cases h
    by_cases hname : a.displayName.isEmpty = true
    · rw [if_pos hname]
      exact ht.1
    · rw [if_neg hname]
      simp [ht.1, ht.2]
  | personal name =>
    cases h
    exact ht
  | stray v => cases h

namespace Leaf

/-- a leaf without quotes in its pattern, its address or name, or its flag -/
def Quoteless : Leaf → Prop
  | body p | subject p => '"' ∉ p
  | sender t | recipient _ t => t.Quoteless
  | flag name _ => '"' ∉ name
  | number _ | received _ _ | sent _ _ | size _ _ => True

/-- leaves with the same words, which tell their kind with its recipients or its comparison, around the
same quoted text -/
def SaidAlike (zone : Zone) (l l' : Leaf) : Prop :=
  (∃ w, Worded w l ∧ Worded w l') ∧ (∃ q, l.quoted zone = .ok q ∧ l'.quoted zone = .ok q) ∧
    l.closing = l'.closing

variable {l l' : Leaf} {q : Text}

theorem SaidAlike.describe_eq (h : l.SaidAlike zone l') : l.describe zone = l'.describe zone := by
  obtain ⟨⟨w, hw, hw'⟩, ⟨q, hq, hq'⟩, hclosing⟩ := h
  rw [describe_of_worded hw hq, describe_of_worded hw' hq', hclosing]

theorem not_mem_quoted (hz : zone.Plain) (hl : l.Quoteless) (h : l.quoted zone = .ok q) : '"' ∉ q := by
  cases l with
  | body p | subject p =>
    cases h
    exact hl
  | sender t | recipient kind t => exact Target.not_mem_describe hl h
  | number n | size cmp n =>
    cases h
    exact Text.not_mem_decimalInt (by decide) n
  | received cmp m | sent cmp m => exact zone.not_mem_spoken hz (orFault_eq_ok.1 h)
  | flag name isSet =>
    cases h
    intro hmem
    exact hl (List.mem_filter.1 hmem).1

/-- without quotes in the texts, the words end at the first quote and the quoted text at the second -/
theorem endsTold_of_quoteless (hz : zone.Plain) :
    Tree.EndsTold zone Quoteless (SaidAlike zone) := by
  intro l l' s s' r r' hl hl' hs hs' _ _ h
  obtain ⟨w, q, hw, hq, rfl⟩ := worded_of_describe hs
  obtain ⟨w', q', hw', hq', rfl⟩ := worded_of_describe hs'
  simp only [List.append_assoc, List.cons_append] at h
  obtain ⟨hwords, hbehind⟩ := Text.append_cons_inj w.not_mem_text w'.not_mem_text h
  cases Wording.text_inj hwords
  obtain ⟨rfl, hclosing, hrest⟩ := quoted_unique_of_not_mem hw hw' (not_mem_quoted hz hl hq)
    (not_mem_quoted hz hl' hq') hbehind
  exact ⟨hrest, ⟨w, hw, hw'⟩, ⟨q, hq, hq'⟩, hclosing⟩

end Leaf

namespace Tree

/-- **Skeletons.**  Trees whose texts hold no quotes are described alike exactly if they have the same
combinations in the same places and at each place leaves with the same words around the same text.  The
names of zones, which dates end with, hold no quotes either. -/
theorem describe_eq_iff_corresponds (zone : Zone) (t t' : Tree) (s : Text) (hz : zone.Plain)
    (ht : ∀ l ∈ t.leaves, l.Quoteless) (ht' : ∀ l ∈ t'.leaves, l.Quoteless)
    (hs : t.describe zone = .ok s) :
    t'.describe zone = .ok s ↔ t.Corresponds (Leaf.SaidAlike zone) t' := by
  constructor
  · intro hs'
    have hleaf := Leaf.endsTold_of_quoteless hz
    exact (corresponds_of_describe hleaf ht ht' hs hs' (.inl rfl) (.inl rfl) rfl).2
  · intro h
    have hsame := describe_eq_of_corresponds (fun _ _ hl => Leaf.SaidAlike.describe_eq hl) h
    exact hsame.symm.trans hs

/-- words of combinations in a pattern, with a flag and somebody to look for -/
def nestingTree (name : Text) (who : Target) : Tree :=
  disj (conj (leaf (.subject "a) and (b or not c")) (leaf (.flag name true))) (neg (.sender who))

def nestingWords : Text :=
  "((subject contains \"a) and (b or not c\" and flag \"Seen\" set)" ++
    " or not sender is \"Ann <a@b.org>\")"

theorem quoteless_nestingTree {name : Text} {who : Target} (hname : '"' ∉ name)
    (hwho : who.Quoteless) : ∀ l ∈ (nestingTree name who).leaves, l.Quoteless := by
  intro l hl
  simp only [nestingTree, leaves, List.cons_append, List.nil_append, List.mem_cons,
    List.not_mem_nil, or_false] at hl
  rcases hl with rfl | rfl | rfl
  · show '"' ∉ "a) and (b or not c".toList
    decide
  · exact hname
  · exact hwho

/-- a flag and a keyword, and an address and a name, that are put alike -/
theorem describe_nestingTree :
    (nestingTree seenFlag (.address ⟨"a@b.org", "Ann"⟩)).describe .utc = .ok nestingWords ∧
    (nestingTree "Seen" (.personal "Ann <a@b.org>")).describe .utc = .ok nestingWords ∧
    (nestingTree seenFlag (.address ⟨"a@b.org", "Ann"⟩)).Corresponds (Leaf.SaidAlike .utc)
      (nestingTree "Seen" (.personal "Ann <a@b.org>")) := by
  have hz : Zone.utc.Plain := Zone.plain_of_read? (s := "UTC0") (by decide)
  have h : (nestingTree seenFlag (.address ⟨"a@b.org", "Ann"⟩)).describe .utc
      = .ok nestingWords := by
    decide
  have h' : (nestingTree "Seen" (.personal "Ann <a@b.org>")).describe .utc = .ok nestingWords := by
    decide
  have hwho : (Target.address ⟨"a@b.org", "Ann"⟩).Quoteless := ⟨by decide, by decide⟩
  have hwho' : (Target.personal "Ann <a@b.org>").Quoteless := by
    show '"' ∉ "Ann <a@b.org>".toList
    decide
  have hname : '"' ∉ seenFlag ∧ '"' ∉ "Seen".toList := by decide
  have ht := quoteless_nestingTree hname.1 hwho
  have ht' := quoteless_nestingTree hname.2 hwho'
  exact ⟨h, h', (describe_eq_iff_corresponds .utc _ _ _ hz ht ht' h).1 h'⟩

end Tree
end Mailroom
