import Mailroom.Proofs.Filter.Truth

/-!
# What an expression means

An expression says of a message that some branch between `|` holds, a branch that all of its tokens
between `+` hold, and a token `field:value` that the condition of the field and the value is met.
Behind a `!` the condition must not be met.  For all fields but `flag` the tree wraps such a condition;
a flag keeps its negation in its own state, and `holds_resolve_negated` says that this is the same.

* `TokenHolds`           what a token says of a message, from the condition without the `!`;
* `holds_compile_iff`    the compiled tree says what the expression says.
-/

namespace Mailroom.Filter

/-- what a token says of a message: that the condition of its field and value is met, or behind a `!`
that it is not met -/
def TokenHolds (zone : Zone) (f : Fetched) (token : Text) : Prop :=
  ∃ name value negated t, Spelled token name value negated ∧
    resolve zone name value false = .ok t ∧ t.holds zone f = .ok (!negated)

variable {zone : Zone} {f : Fetched}

theorem Spelled.unique {token name name' value value' : Text} {negated negated' : Bool}
    (h : Spelled token name value negated) (h' : Spelled token name' value' negated') :
    name = name' ∧ value = value' ∧ negated = negated' := by
  have e := h.splitOn.symm.trans h'.splitOn
  simp only [List.cons.injEq, and_true] at e
  refine ⟨e.1, ?_⟩
  cases negated with
  | true =>
    cases negated' with
    | true => exact ⟨(List.cons.inj e.2).2, rfl⟩
    | false => exact absurd (congrArg List.head? e.2).symm (h'.plain rfl).2
  | false =>
    cases negated' with
    | true => exact absurd (congrArg List.head? e.2) (h.plain rfl).2
    | false => exact ⟨e.2, rfl⟩

/-- the condition of a negated term is met where the one without the `!` is not met -/
theorem holds_resolve_negated {name value : Text} {t : Tree} {b : Bool}
    (h : resolve zone name value true = .ok t) (ht : t.holds zone f = .ok b) :
    ∃ s, resolve zone name value false = .ok s ∧ s.holds zone f = .ok !b := by
  rcases resolve_eq_ok.1 h with ⟨hn, flag, hflag, rfl⟩ | ⟨hn, g, l, hg, ha, hl, rfl⟩
  · refine ⟨.leaf (.flag flag true), resolve_eq_ok.2 (.inl ⟨hn, flag, hflag, rfl⟩), ?_⟩
    have hb : (f.flags.contains flag == false) = b := Except.ok.inj ht
    show Except.ok (f.flags.contains flag == true) = _
    rw [← hb]
    cases f.flags.contains flag <;> rfl
  · refine ⟨.leaf l, resolve_eq_ok.2 (.inr ⟨hn, g, l, hg, ha, hl, rfl⟩), ?_⟩
    obtain ⟨x, hx, hb⟩ := bind_eq_ok.1 ht
    have hb : (!x) = b := Except.ok.inj hb
    show l.holds zone f = _
    rw [hx, ← hb, Bool.not_not]

/-- the tree of a token, where it is evaluated without a fault, says what the token says -/
theorem holds_parseTerm_iff {token : Text} {t : Tree} {b : Bool}
    (h : parseTerm zone token = .ok t) (ht : t.holds zone f = .ok b) :
    b = true ↔ TokenHolds zone f token := by
  obtain ⟨name, value, negated, hs, hres⟩ := parseTerm_eq_ok.1 h
  have hplain : ∃ s, resolve zone name value false = .ok s ∧ s.holds zone f = .ok (b == !negated) := by
    cases negated with
    | true =>
      obtain ⟨s, hs, hb⟩ := holds_resolve_negated hres ht
      exact ⟨s, hs, by rw [hb]; cases b <;> rfl⟩
    | false => exact ⟨t, hres, by rw [ht]; cases b <;> rfl⟩
  obtain ⟨s, hres, hb⟩ := hplain
  constructor
  · rintro rfl
    exact ⟨name, value, negated, s, hs, hres, by rw [hb]; cases negated <;> rfl⟩
  · rintro ⟨name', value', negated', s', hs', hres', hb'⟩
    obtain ⟨rfl, rfl, rfl⟩ := hs.unique hs'
    rw [hres] at hres'
    cases hres'
    rw [hb] at hb'
    cases b <;> cases negated <;> simp_all

theorem fulfilled_parseTerm_iff {token : Text} {t : Tree} (h : parseTerm zone token = .ok t)
    (hd : t.Decided zone f) : t.Fulfilled zone f ↔ TokenHolds zone f token := by
  obtain ⟨name, value, negated, -, hres⟩ := parseTerm_eq_ok.1 h
  obtain ⟨b, hb, hf⟩ := Tree.holds_iff_fulfilled (isWhole_of_resolve hres) hd
  rw [← hf, holds_parseTerm_iff h hb]

theorem fulfilled_parseBranch_iff {branch : Text} {t : Tree} (h : parseBranch zone branch = .ok t)
    (hd : t.Decided zone f) :
    t.Fulfilled zone f ↔ ∀ token ∈ Text.splitOn '+' branch, TokenHolds zone f token := by
  obtain ⟨ts, rfl, hts⟩ := parseBranch_eq_ok.1 h
  have hne := ne_nil_of_pieces hts
  rw [decided_foldTrees (fun _ _ => rfl) hne] at hd
  rw [fulfilled_foldTrees_conj hne]
  exact (forall_mem_iff_of_aligned hts fun token s hs hp =>
    (fulfilled_parseTerm_iff hp.2 (hd s hs)).symm).symm

/-- **The meaning of a filter.**  On a message on which no leaf fails, the compiled tree holds exactly
if some branch of the expression has tokens that all hold. -/
theorem holds_compile_iff (zone : Zone) (f : Fetched) (e : Text) (t : Tree)
    (ht : compile zone e = .ok t) (hd : ∀ l ∈ t.leaves, ∃ b, l.holds zone f = .ok b) :
    ∃ b, t.holds zone f = .ok b ∧ (b = true ↔ ∃ branch ∈ Text.splitOn '|' e,
      ∀ token ∈ Text.splitOn '+' branch, TokenHolds zone f token) := by
  obtain ⟨b, hb, hf⟩ := Tree.holds_iff_fulfilled (isWhole_of_compile ht) hd
  refine ⟨b, hb, hf.trans ?_⟩
  obtain ⟨ts, rfl, hts⟩ := compile_eq_ok.1 ht
  have hne := ne_nil_of_pieces hts
  replace hd := (decided_foldTrees (fun _ _ => rfl) hne).1 hd
  rw [fulfilled_foldTrees_disj hne]
  exact (exists_mem_iff_of_aligned hts fun branch s hs hp =>
    (fulfilled_parseBranch_iff hp.2 (hd s hs)).symm).symm

theorem holds_compile_markedMessage :
    compile .utc "subject:!hello+flag:!seen|number:3" = .ok sampleTree ∧
    ∃ b, sampleTree.holds .utc markedMessage = .ok b ∧
      (b = true ↔ ∃ branch ∈ Text.splitOn '|' "subject:!hello+flag:!seen|number:3",
        ∀ token ∈ Text.splitOn '+' branch, TokenHolds .utc markedMessage token) :=
  ⟨compile_sampleTree,
    holds_compile_iff .utc markedMessage _ _ compile_sampleTree decided_sampleTree⟩

end Mailroom.Filter
