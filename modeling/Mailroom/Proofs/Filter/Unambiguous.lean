import Mailroom.Proofs.Filter.Skeleton
import Mailroom.Proofs.Filter.Truth

/-!
# What a description tells of a filter

A description quotes the texts of a filter as they were typed.  The filter can be told from it unless
one of them looks like the end of a term, a name looks like an address, or a keyword like the name of a
flag that every message can have.

* `Tree.Legible`            a tree of leaves that their descriptions tell;
* `rest_of_describe`        descriptions of such trees, with something behind them that can follow a
  term, end at the same place, and the trees say the same;
* `holds_eq_of_describe_eq`   accepted filters of such leaves that are described alike say the same;
* `Confused`                filters that are described alike and do not say the same.
-/

namespace Mailroom

variable {zone : Zone}

namespace Tree

/-- a tree of conditions of terms which their descriptions tell -/
def Legible (zone : Zone) : Tree → Prop
  | leaf l | neg l => l.Resolved zone ∧ l.Clear zone
  | conj a b | disj a b => a.Legible zone ∧ b.Legible zone
  | stray _ => False

variable {t t' : Tree} {r r' s s' : Text}

theorem legible_of_leaves (hw : t.IsWhole) (h : ∀ l ∈ t.leaves, l.Resolved zone ∧ l.Clear zone) :
    t.Legible zone := by
  induction t with
  | leaf l | neg l => exact h l List.mem_cons_self
  | conj a b iha ihb | disj a b iha ihb =>
    rw [leaves, List.forall_mem_append] at h
    exact ⟨iha hw.1 h.1, ihb hw.2 h.2⟩
  | stray v => exact absurd hw id

theorem Legible.of_mem (h : t.Legible zone) : ∀ l ∈ t.leaves, l.Resolved zone ∧ l.Clear zone := by
  induction t with
  | leaf l | neg l =>
    intro m hm
    rw [leaves, List.mem_singleton] at hm
    rwa [hm]
  | conj a b iha ihb | disj a b iha ihb =>
    rw [leaves, List.forall_mem_append]
    exact ⟨iha h.1, ihb h.2⟩
  | stray v => exact absurd h id

theorem exists_describe (hw : t.IsWhole) (h : ∀ l ∈ t.leaves, l.Resolved zone) :
    ∃ s, t.describe zone = .ok s := by
  have hleaf : ∀ l : Leaf, l.Resolved zone → ∃ s, l.describe zone = .ok s := by
    intro l hl
    obtain ⟨w, hworded⟩ := worded_of_resolved hl
    obtain ⟨q, hq⟩ := quoted_of_resolved hl
    exact ⟨_, describe_of_worded hworded hq⟩
  induction t with
  | leaf l => exact hleaf l (h l List.mem_cons_self)
  | neg l =>
    obtain ⟨s, hs⟩ := hleaf l (h l List.mem_cons_self)
    exact exists_bind_eq_ok hs ⟨_, rfl⟩
  | conj a b iha ihb | disj a b iha ihb =>
    rw [leaves, List.forall_mem_append] at h
    obtain ⟨x, hx⟩ := iha hw.1 h.1
    obtain ⟨y, hy⟩ := ihb hw.2 h.2
    exact exists_bind_eq_ok hx (exists_bind_eq_ok hy ⟨_, rfl⟩)
  | stray v => exact absurd hw id

/-- trees of the same shape say the same if their leaves do -/
theorem holds_eq_of_corresponds {R : Leaf → Leaf → Prop}
    (hleaf : ∀ l l', R l l' → ∀ f, l.holds zone f = l'.holds zone f) (h : t.Corresponds R t')
    (f : Fetched) : t.holds zone f = t'.holds zone f := by
  induction h with
  | leaf h => exact hleaf _ _ h f
  | neg h => rw [holds, holds, hleaf _ _ h f]
  | conj _ _ iha ihb | disj _ _ iha ihb => rw [holds, holds, iha, ihb]

/-- the description of a leaf which it tells ends at the first quote that can end a term -/
theorem endsTold_of_clear : EndsTold zone (fun l => l.Resolved zone ∧ l.Clear zone)
    fun l l' => ∀ f, l.holds zone f = l'.holds zone f := by
  intro l l' s s' r r' hl hl' hs hs' hr hr' h
  obtain ⟨w, q, hw, hq, rfl⟩ := worded_of_describe hs
  obtain ⟨w', q', hw', hq', rfl⟩ := worded_of_describe hs'
  simp only [List.append_assoc, List.cons_append] at h
  obtain ⟨hwords, hbehind⟩ := Text.append_cons_inj w.not_mem_text w'.not_mem_text h
  cases Wording.text_inj hwords
  obtain ⟨hquoted, hclosing, hrest⟩ :=
    quoted_unique hw hw' hl.1 hl'.1 hl.2 hl'.2 hq hq' hr hr' hbehind
  refine ⟨hrest, holds_eq_of_quoted_eq hw hw' hl.1 hl'.1 hl.2 hl'.2 ?_ hclosing⟩
  rw [hq, hq', hquoted]

/-- descriptions with something behind them that can follow a term end at the same place, and their
trees say the same -/
theorem rest_of_describe (hl : t.Legible zone) (hl' : t'.Legible zone)
    (hs : t.describe zone = .ok s) (hs' : t'.describe zone = .ok s') (hr : Follows r)
    (hr' : Follows r') (h : s ++ r = s' ++ r') :
    r = r' ∧ ∀ f, t.holds zone f = t'.holds zone f := by
  obtain ⟨hrest, hsame⟩ :=
    corresponds_of_describe endsTold_of_clear hl.of_mem hl'.of_mem hs hs' hr hr' h
  exact ⟨hrest, holds_eq_of_corresponds (fun _ _ hleaf => hleaf) hsame⟩

end Tree

namespace Filter

/-- **Descriptions.**  Every accepted filter is described, and accepted filters whose leaves their
descriptions tell are described alike only if they say the same of every message. -/
theorem holds_eq_of_describe_eq (zone : Zone) (e e' : Text) (t t' : Tree)
    (ht : compile zone e = .ok t) (ht' : compile zone e' = .ok t')
    (hc : ∀ l ∈ t.leaves, l.Clear zone) (hc' : ∀ l ∈ t'.leaves, l.Clear zone) :
    (∃ s, t.describe zone = .ok s) ∧
      (t.describe zone = t'.describe zone → ∀ f, t.holds zone f = t'.holds zone f) := by
  have hw := isWhole_of_compile ht
  have hw' := isWhole_of_compile ht'
  have hr := resolved_of_compile ht
  have hr' := resolved_of_compile ht'
  obtain ⟨s, hs⟩ := Tree.exists_describe hw hr
  refine ⟨⟨s, hs⟩, ?_⟩
  intro h
  have hl := Tree.legible_of_leaves hw fun l hl => ⟨hr l hl, hc l hl⟩
  have hl' := Tree.legible_of_leaves hw' fun l hl => ⟨hr' l hl, hc' l hl⟩
  exact (Tree.rest_of_describe hl hl' hs (h ▸ hs) (.inl rfl) (.inl rfl) rfl).2

/-- a filter with quotes in a pattern, an address and a number that can be written in many ways -/
def quotingTree : Tree :=
  .disj (.conj (.leaf (.subject "say \"hi\"")) (.leaf (.sender (.address ⟨"ann@x.org", "Ann"⟩))))
    (.neg (.number 7))

theorem clear_quotingTree : ∀ l ∈ quotingTree.leaves, l.Clear .utc := by
  have hcontained : Contained "say \"hi\"" ∧ Contained "Ann <ann@x.org>" ∧ Contained "7" := by
    unfold Contained
    decide +kernel
  obtain ⟨hs, ha, hn⟩ := hcontained
  intro l hl
  simp only [quotingTree, Tree.leaves, List.cons_append, List.nil_append, List.mem_cons,
    List.not_mem_nil, or_false] at hl
  rcases hl with rfl | rfl | rfl
  · exact clear_of_contained rfl hs rfl fun _ => by simp
  · have hquoted : (Leaf.sender (.address ⟨"ann@x.org", "Ann"⟩)).quoted .utc
        = .ok "Ann <ann@x.org>".toList := by decide +kernel
    exact clear_of_contained hquoted ha rfl fun _ => by simp
  · exact clear_of_contained rfl hn rfl fun _ => by simp

theorem holds_eq_quotingTree :
    compile .utc "subject:say \"hi\"+from:Ann <ann@x.org>|number:!7" = .ok quotingTree ∧
    compile .utc "subject:say \"hi\"+from:Ann <ann@x,.org>|number:!07" = .ok quotingTree ∧
    (∃ s, quotingTree.describe .utc = .ok s) ∧
      (quotingTree.describe .utc = quotingTree.describe .utc →
        ∀ f, quotingTree.holds .utc f = quotingTree.holds .utc f) := by
  have h : compile .utc "subject:say \"hi\"+from:Ann <ann@x.org>|number:!7" = .ok quotingTree := by
    decide +kernel
  have h' : compile .utc "subject:say \"hi\"+from:Ann <ann@x,.org>|number:!07"
      = .ok quotingTree := by
    decide +kernel
  exact ⟨h, h', holds_eq_of_describe_eq .utc _ _ _ _ h h' clear_quotingTree clear_quotingTree⟩

/-- two accepted filters that are described alike, the first of which holds on a message and the second
does not -/
def Confused (zone : Zone) (f : Fetched) (e e' : Text) : Prop :=
  ∃ t t' s, compile zone e = .ok t ∧ compile zone e' = .ok t' ∧ t.describe zone = .ok s ∧
    t'.describe zone = .ok s ∧ t.holds zone f = .ok true ∧ t'.holds zone f = .ok false

/-- a message that was read, with quotes in its subject -/
def quotedMessage : Fetched :=
  ⟨1, [seenFlag], 0, none, .leaf ⟨[⟨"Subject", "x\" and subject contains \"y z"⟩,
    ⟨"From", "x@y.org"⟩], false⟩ []⟩

/-- none of the conditions on leaves can be left out: a keyword can look like a flag, a pattern like
the end of a term, and a name like an address -/
theorem confused_quotedMessage :
    Confused .utc quotedMessage "flag:seen" "flag:Seen" ∧
    Confused .utc quotedMessage "subject:x\" and subject contains \"y+subject:z"
      "subject:x+subject:y\" and subject contains \"z" ∧
    Confused .utc quotedMessage "from:\"a(b\" <x@y.org>" "from:a(b <x@y.org>" := by
  refine ⟨⟨.leaf (.flag seenFlag true), .leaf (.flag "Seen" true), "flag \"Seen\" set", ?_⟩,
    ⟨.conj (.leaf (.subject "x\" and subject contains \"y")) (.leaf (.subject "z")),
      .conj (.leaf (.subject "x")) (.leaf (.subject "y\" and subject contains \"z")),
      "(subject contains \"x\" and subject contains \"y\" and subject contains \"z\")", ?_⟩,
    ⟨.leaf (.sender (.address ⟨"x@y.org", "a(b"⟩)), .leaf (.sender (.personal "a(b <x@y.org>")),
      "sender is \"a(b <x@y.org>\"", ?_⟩⟩
  · decide +kernel
  · decide +kernel
  · decide +kernel

end Filter
end Mailroom
