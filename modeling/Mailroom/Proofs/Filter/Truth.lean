import Mailroom.Filter.Evaluate
import Mailroom.Proofs.Filter.Grammar

/-!
# When a filter holds

The evaluator looks at the second half of a combination only where the first half does not decide,
and a leaf may fail.  Where no leaf fails its answer is the plain logical one.

* `Tree.IsWhole`     a tree without parts that have no meaning;
* `Tree.Decided`     a message on which no leaf of a tree fails;
* `Tree.Fulfilled`   the logical reading of a tree;
* `holds_iff_fulfilled`   on whole, decided trees the evaluator answers, and answers the logical reading;
* `fulfilled_foldTrees_conj`, `fulfilled_foldTrees_disj`   joined trees ask for all, or for one.
-/

namespace Mailroom.Tree

/-- a tree of conditions only -/
def IsWhole : Tree → Prop
  | leaf _ | neg _ => True
  | conj a b | disj a b => a.IsWhole ∧ b.IsWhole
  | stray _ => False

section
variable (zone : Zone) (f : Fetched)

/-- no leaf fails on the message -/
def Decided (t : Tree) : Prop := ∀ l ∈ t.leaves, ∃ b, l.holds zone f = .ok b

/-- the logical reading of a tree -/
def Fulfilled : Tree → Prop
  | leaf l => l.holds zone f = .ok true
  | neg l => l.holds zone f = .ok false
  | conj a b => a.Fulfilled ∧ b.Fulfilled
  | disj a b => a.Fulfilled ∨ b.Fulfilled
  | stray _ => False

end

section
variable {zone : Zone} {f : Fetched}

theorem Decided.conj {a b : Tree} :
    (Tree.conj a b).Decided zone f ↔ a.Decided zone f ∧ b.Decided zone f := by
  simp [Decided, leaves, or_imp, forall_and]

theorem Decided.disj {a b : Tree} :
    (Tree.disj a b).Decided zone f ↔ a.Decided zone f ∧ b.Decided zone f := by
  simp [Decided, leaves, or_imp, forall_and]

theorem holds_conj_of_ok {a b : Tree} {x y : Bool} (ha : a.holds zone f = .ok x)
    (hb : b.holds zone f = .ok y) : (Tree.conj a b).holds zone f = .ok (x && y) := by
  rw [holds, ha]
  cases x with
  | true => exact hb
  | false => rfl

theorem holds_disj_of_ok {a b : Tree} {x y : Bool} (ha : a.holds zone f = .ok x)
    (hb : b.holds zone f = .ok y) : (Tree.disj a b).holds zone f = .ok (x || y) := by
  rw [holds, ha]
  cases x with
  | true => rfl
  | false => exact hb

theorem holds_neg_of_ok {l : Leaf} {x : Bool} (h : l.holds zone f = .ok x) :
    (Tree.neg l).holds zone f = .ok !x := by
  rw [holds, h]
  rfl

/-- where no leaf fails the evaluator answers, and answers the logical reading -/
theorem holds_iff_fulfilled {t : Tree} (hw : t.IsWhole) (hd : t.Decided zone f) :
    ∃ b, t.holds zone f = .ok b ∧ (b = true ↔ t.Fulfilled zone f) := by
  induction t with
  | leaf l =>
    obtain ⟨b, hb⟩ := hd l List.mem_cons_self
    exact ⟨b, hb, by simp [Fulfilled, hb]⟩
  | neg l =>
    obtain ⟨b, hb⟩ := hd l List.mem_cons_self
    exact ⟨!b, holds_neg_of_ok hb, by simp [Fulfilled, hb]⟩
  | conj a b iha ihb =>
    obtain ⟨x, hx, hfx⟩ := iha hw.1 (Decided.conj.1 hd).1
    obtain ⟨y, hy, hfy⟩ := ihb hw.2 (Decided.conj.1 hd).2
    exact ⟨x && y, holds_conj_of_ok hx hy, by rw [Bool.and_eq_true, hfx, hfy, Fulfilled]⟩
  | disj a b iha ihb =>
    obtain ⟨x, hx, hfx⟩ := iha hw.1 (Decided.disj.1 hd).1
    obtain ⟨y, hy, hfy⟩ := ihb hw.2 (Decided.disj.1 hd).2
    exact ⟨x || y, holds_disj_of_ok hx hy, by rw [Bool.or_eq_true, hfx, hfy, Fulfilled]⟩
  | stray v => exact absurd hw id

end

end Mailroom.Tree

namespace Mailroom.Filter

/-- a message to try filters on: number 7, marked but not read, 4096 bytes, with an empty header -/
def markedMessage : Fetched := ⟨7, [flaggedFlag], 4096, none, .leaf ⟨[], false⟩ []⟩

/-- the tree of a filter with a branch of two terms and a branch of one -/
def sampleTree : Tree :=
  .disj (.conj (.neg (.subject "hello")) (.leaf (.flag seenFlag false))) (.leaf (.number 3))

theorem compile_sampleTree :
    compile .utc "subject:!hello+flag:!seen|number:3" = .ok sampleTree := by decide

theorem decided_sampleTree : sampleTree.Decided .utc markedMessage := by
  intro l hl
  simp only [sampleTree, Tree.leaves, List.cons_append, List.nil_append, List.mem_cons,
    List.not_mem_nil, or_false] at hl
  rcases hl with rfl | rfl | rfl
  · exact ⟨false, by decide⟩
  · exact ⟨true, by decide⟩
  · exact ⟨false, by decide⟩

variable {zone : Zone} {f : Fetched}

theorem isWhole_of_resolve {name value : Text} {negated : Bool} {t : Tree}
    (h : resolve zone name value negated = .ok t) : t.IsWhole := by
  rcases resolve_eq_ok.1 h with ⟨-, flag, -, rfl⟩ | ⟨-, g, l, -, -, -, rfl⟩
  · trivial
  · cases negated <;> trivial

theorem isWhole_of_compile {e : Text} {t : Tree} (h : compile zone e = .ok t) : t.IsWhole := by
  have hjoin : ∀ a b : Tree, a.IsWhole → b.IsWhole → a.IsWhole ∧ b.IsWhole := fun _ _ => And.intro
  exact compile_induct hjoin hjoin (fun _ _ _ _ => isWhole_of_resolve) h

theorem decided_foldTrees {join : Tree → Tree → Tree}
    (hj : ∀ a b, (join a b).leaves = a.leaves ++ b.leaves) {ts : List Tree} (hne : ts ≠ []) :
    (foldTrees join ts).Decided zone f ↔ ∀ t ∈ ts, t.Decided zone f := by
  simp only [Tree.Decided, leaves_foldTrees hj hne, List.mem_flatMap]
  constructor
  · intro h t ht l hl
    exact h l ⟨t, ht, hl⟩
  · rintro h l ⟨t, ht, hl⟩
    exact h t ht l hl

theorem fulfilled_foldTrees_conj {ts : List Tree} (hne : ts ≠ []) :
    (foldTrees .conj ts).Fulfilled zone f ↔ ∀ t ∈ ts, t.Fulfilled zone f := by
  cases ts with
  | nil => exact absurd rfl hne
  | cons t ts =>
    rw [foldTrees, List.forall_mem_cons]
    clear hne
    induction ts generalizing t with
    | nil => simp
    | cons s ss ih => rw [List.foldl_cons, ih, Tree.Fulfilled, List.forall_mem_cons, and_assoc]

theorem fulfilled_foldTrees_disj {ts : List Tree} (hne : ts ≠ []) :
    (foldTrees .disj ts).Fulfilled zone f ↔ ∃ t ∈ ts, t.Fulfilled zone f := by
  cases ts with
  | nil => exact absurd rfl hne
  | cons t ts =>
    rw [foldTrees, List.exists_mem_cons_iff]
    clear hne
    induction ts generalizing t with
    | nil => simp
    | cons s ss ih => rw [List.foldl_cons, ih, Tree.Fulfilled, List.exists_mem_cons_iff, or_assoc]

end Mailroom.Filter
