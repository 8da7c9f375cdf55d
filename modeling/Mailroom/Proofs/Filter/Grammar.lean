import Mailroom.Filter.Compile
import Mailroom.Proofs.Lists
import Mailroom.Proofs.Text.Pieces

/-!
# The grammar of filter expressions

What the reader of expressions does, said once for all statements about it.

* `Spelled`         a token that consists of a field and a value, negated or not;
* `readPieces_eq_ok`, `readPieces_eq_error`   pieces are read from the left up to the first fault;
* `parseTerm_of_spelled`, `parseTerm_of_not_spelled`   every token is spelled or is no term;
* `parseBranch_eq_ok`, `compile_eq_ok`   an accepted expression is a sequence of accepted branches,
  an accepted branch a sequence of accepted terms;
* `resolve_eq_ok`   what an accepted field and value become;
* `compile_levels`, `compile_induct`   what every condition of a term has, and joining keeps, every
  accepted filter has;
* `leaves_foldTrees`   joining trees loses no leaf and adds none.
-/

namespace Mailroom.Filter

/-! ## pieces -/

section
variable {α : Type} {empty : Fault} {f : Text → Except Fault α}

theorem readPieces_nil : readPieces empty f [] = .ok [] := rfl

theorem readPieces_cons_nil (ps : List Text) : readPieces empty f ([] :: ps) = .error empty := rfl

theorem readPieces_cons {p : Text} (hp : p ≠ []) (ps : List Text) :
    readPieces empty f (p :: ps) = do
      let a ← f p
      let as ← readPieces empty f ps
      return a :: as := by
  rw [readPieces, if_neg]
  simpa using hp

theorem readPieces_eq_ok {ps : List Text} {as : List α} :
    readPieces empty f ps = .ok as ↔ List.Forall₂ (fun p a => p ≠ [] ∧ f p = .ok a) ps as := by
  induction ps generalizing as with
  | nil => simp [readPieces_nil, eq_comm]
  | cons p ps ih =>
    rw [List.forall₂_cons_left_iff]
    by_cases hp : p = []
    · simp [hp, readPieces_cons_nil]
    rw [readPieces_cons hp, bind_eq_ok]
    constructor
    · rintro ⟨a, ha, h⟩
      obtain ⟨as', has, h⟩ := bind_eq_ok.1 h
      exact ⟨a, as', ⟨hp, ha⟩, ih.1 has, (pure_eq_ok.1 h).symm⟩
    · rintro ⟨a, as', ⟨_, ha⟩, has, rfl⟩
      exact ⟨a, ha, bind_eq_ok.2 ⟨as', ih.2 has, rfl⟩⟩

/-- the first piece that cannot be read is the one that counts -/
theorem readPieces_eq_error {ps : List Text} {x : Fault} :
    readPieces empty f ps = .error x ↔ ∃ before p after, ps = before ++ p :: after ∧
      (∀ q ∈ before, q ≠ [] ∧ ∃ a, f q = .ok a) ∧ (p = [] ∧ x = empty ∨ p ≠ [] ∧ f p = .error x) := by
  induction ps with
  | nil => simp [readPieces_nil]
  | cons p ps ih =>
    by_cases hp : p = []
    · subst hp
      rw [readPieces_cons_nil]
      constructor
      · intro h
        exact ⟨[], [], ps, rfl, by simp, .inl ⟨rfl, (Except.error.inj h).symm⟩⟩
      · rintro ⟨before, q, after, e, hb, hq⟩
        cases before with
        | nil =>
          cases e
          rcases hq with ⟨-, rfl⟩ | ⟨hq, -⟩
          · rfl
          · exact absurd rfl hq
        | cons b before =>
          cases e
          exact absurd rfl (hb [] List.mem_cons_self).1
    rw [readPieces_cons hp, bind_eq_error]
    constructor
    · rintro (h | ⟨a, ha, h⟩)
      · exact ⟨[], p, ps, rfl, by simp, .inr ⟨hp, h⟩⟩
      rcases bind_eq_error.1 h with h | ⟨as, -, h⟩
      · obtain ⟨before, q, after, rfl, hb, hq⟩ := ih.1 h
        refine ⟨p :: before, q, after, rfl, fun r hr => ?_, hq⟩
        rcases List.mem_cons.1 hr with rfl | hr
        · exact ⟨hp, a, ha⟩
        · exact hb r hr
      · exact absurd h pure_ne_error
    · rintro ⟨before, q, after, e, hb, hq⟩
      cases before with
      | nil =>
        cases e
        exact .inl (hq.resolve_left fun h => hp h.1).2
      | cons b before =>
        cases e
        obtain ⟨-, a, ha⟩ := hb p List.mem_cons_self
        have hrest := ih.2 ⟨before, q, after, rfl, fun r hr => hb r (List.mem_cons_of_mem _ hr), hq⟩
        exact .inr ⟨a, ha, bind_eq_error.2 (.inl hrest)⟩

end

/-! ## terms -/

/-- the token consists of the field `name` and the value, behind a `!` if it is negated -/
structure Spelled (token name value : Text) (negated : Bool) : Prop where
  eq : token = name ++ ':' :: if negated then '!' :: value else value
  name_ne : name ≠ []
  name_free : ':' ∉ name
  value_free : ':' ∉ value
  plain : negated = false → value ≠ [] ∧ value.head? ≠ some '!'

theorem splitOn_eq_pair {sep : Char} {s a b : Text} :
    Text.splitOn sep s = [a, b] ↔ s = a ++ sep :: b ∧ sep ∉ a ∧ sep ∉ b := by
  constructor
  · intro h
    refine ⟨?_, ?_, ?_⟩
    · rw [← Text.intercalate_splitOn sep s, h]
      simp [List.intercalate_cons_cons]
    · exact Text.not_mem_of_mem_splitOn (h ▸ List.mem_cons_self)
    · exact Text.not_mem_of_mem_splitOn (h ▸ List.mem_cons_of_mem _ List.mem_cons_self)
  · rintro ⟨rfl, ha, hb⟩
    rw [Text.splitOn_append_cons, Text.splitOn_of_not_mem ha, Text.splitOn_of_not_mem hb]
    rfl

theorem Spelled.splitOn {token name value : Text} {negated : Bool}
    (h : Spelled token name value negated) :
    Text.splitOn ':' token = [name, if negated then '!' :: value else value] := by
  refine splitOn_eq_pair.2 ⟨h.eq, h.name_free, ?_⟩
  cases negated with
  | true => simpa using h.value_free
  | false => exact h.value_free

/-- the value is a part of the token -/
theorem Spelled.mem_of_mem_value {token name value : Text} {negated : Bool}
    (h : Spelled token name value negated) {c : Char} (hc : c ∈ value) : c ∈ token := by
  rw [h.eq]
  refine List.mem_append_right _ (List.mem_cons_of_mem _ ?_)
  cases negated with
  | true => exact List.mem_cons_of_mem _ hc
  | false => exact hc

variable {zone : Zone}

theorem parseTerm_of_spelled {token name value : Text} {negated : Bool}
    (h : Spelled token name value negated) :
    parseTerm zone token = resolve zone name value negated := by
  have hname : name.isEmpty = false := by simpa using h.name_ne
  unfold parseTerm
  rw [h.splitOn]
  cases negated with
  | true => simp [hname]
  | false =>
    obtain ⟨hv, hmark⟩ := h.plain rfl
    cases value with
    | nil => exact absurd rfl hv
    | cons c v =>
      have hc : c ≠ '!' := by simpa using hmark
      simp [hname]
      split
      · rename_i e; exact absurd (List.cons.inj e).1 hc
      · rfl

/-- a token with one colon, with something on either side of it, is spelled -/
theorem exists_spelled {token name rest : Text} (h : Text.splitOn ':' token = [name, rest])
    (hn : name ≠ []) (hr : rest ≠ []) : ∃ value negated, Spelled token name value negated := by
  obtain ⟨e, hname, hrest⟩ := splitOn_eq_pair.1 h
  by_cases hmark : rest.head? = some '!'
  · obtain ⟨value, rfl⟩ := List.head?_eq_some_iff.1 hmark
    exact ⟨value, true, e, hn, hname, fun hv => hrest (List.mem_cons_of_mem _ hv), nofun⟩
  · exact ⟨rest, false, e, hn, hname, hrest, fun _ => ⟨hr, hmark⟩⟩

theorem parseTerm_of_not_spelled {token : Text}
    (h : ∀ name value negated, ¬Spelled token name value negated) :
    parseTerm zone token = .error (.filter ⟨.badTerm, token⟩) := by
  unfold parseTerm
  split
  · rename_i name rest hs
    by_cases hempty : name.isEmpty ∨ rest.isEmpty
    · rw [if_pos hempty]
    · simp only [List.isEmpty_iff, not_or] at hempty
      obtain ⟨value, negated, hsp⟩ := exists_spelled hs hempty.1 hempty.2
      exact absurd hsp (h name value negated)
  · rfl

theorem parseTerm_eq_ok {token : Text} {t : Tree} :
    parseTerm zone token = .ok t ↔ ∃ name value negated,
      Spelled token name value negated ∧ resolve zone name value negated = .ok t := by
  constructor
  · intro h
    by_cases hs : ∃ name value negated, Spelled token name value negated
    · obtain ⟨name, value, negated, hs⟩ := hs
      exact ⟨name, value, negated, hs, parseTerm_of_spelled hs ▸ h⟩
    · rw [parseTerm_of_not_spelled fun name value negated hsp => hs ⟨name, value, negated, hsp⟩] at h
      cases h
  · rintro ⟨name, value, negated, hs, h⟩
    rw [parseTerm_of_spelled hs, h]

/-! ## branches and expressions -/

theorem parseBranch_eq_ok {branch : Text} {t : Tree} :
    parseBranch zone branch = .ok t ↔ ∃ ts, t = foldTrees .conj ts ∧
      List.Forall₂ (fun p t => p ≠ [] ∧ parseTerm zone p = .ok t) (Text.splitOn '+' branch) ts := by
  unfold parseBranch
  rw [bind_eq_ok]
  simp only [readPieces_eq_ok, pure_eq_ok, eq_comm (a := foldTrees _ _), and_comm]

theorem compile_eq_ok {e : Text} {t : Tree} :
    compile zone e = .ok t ↔ ∃ ts, t = foldTrees .disj ts ∧
      List.Forall₂ (fun p t => p ≠ [] ∧ parseBranch zone p = .ok t) (Text.splitOn '|' e) ts := by
  unfold compile
  by_cases he : e = []
  · -- the only piece of an empty expression is empty
    subst he
    simp [Text.splitOn_nil, List.forall₂_cons_left_iff]
  rw [if_neg (by simpa using he), bind_eq_ok]
  simp only [readPieces_eq_ok, pure_eq_ok, eq_comm (a := foldTrees _ _), and_comm]

/-! ## joined trees -/

/-- joining trees keeps what both joined trees have -/
theorem foldTrees_induct {join : Tree → Tree → Tree} {P : Tree → Prop}
    (hj : ∀ a b, P a → P b → P (join a b)) {ts : List Tree} (hne : ts ≠ [])
    (h : ∀ t ∈ ts, P t) : P (foldTrees join ts) := by
  cases ts with
  | nil => exact absurd rfl hne
  | cons t ts =>
    rw [foldTrees]
    have ht := h t List.mem_cons_self
    replace h := fun s hs => h s (List.mem_cons_of_mem t hs)
    clear hne
    induction ts generalizing t with
    | nil => exact ht
    | cons s ss ih =>
      rw [List.foldl_cons]
      exact ih (join t s) (hj t s ht (h s List.mem_cons_self))
        fun r hr => h r (List.mem_cons_of_mem _ hr)

theorem leaves_foldTrees {join : Tree → Tree → Tree}
    (hj : ∀ a b, (join a b).leaves = a.leaves ++ b.leaves) {ts : List Tree} (hne : ts ≠ []) :
    (foldTrees join ts).leaves = ts.flatMap Tree.leaves := by
  cases ts with
  | nil => exact absurd rfl hne
  | cons t ts =>
    rw [foldTrees, List.flatMap_cons]
    clear hne
    induction ts generalizing t with
    | nil => simp
    | cons s ss ih => rw [List.foldl_cons, ih, hj, List.flatMap_cons, List.append_assoc]

theorem ne_nil_of_pieces {R : Text → Tree → Prop} {sep : Char} {s : Text} {ts : List Tree}
    (h : List.Forall₂ R (Text.splitOn sep s) ts) : ts ≠ [] := by
  rintro rfl
  exact Text.splitOn_ne_nil sep s (List.forall₂_nil_right_iff.1 h)

/-! ## accepted terms and filters -/

theorem resolve_eq_ok {name value : Text} {negated : Bool} {t : Tree} :
    resolve zone name value negated = .ok t ↔
      (name = flagField ∧ ∃ flag, flagName value = .ok flag ∧ t = .leaf (.flag flag (!negated))) ∨
      (name ≠ flagField ∧ ∃ f l, field? name = some f ∧ (f.isAddress → Text.trim value ≠ []) ∧
        f.leaf zone value = .ok l ∧ t = if negated then .neg l else .leaf l) := by
  unfold resolve
  by_cases hn : name = flagField
  · simp only [hn, if_true, bind_eq_ok, orFault_eq_ok, pure_eq_ok, true_and, ne_eq, not_true,
      false_and, or_false, eq_comm (a := t)]
  rw [if_neg hn]
  simp only [hn, false_and, false_or, ne_eq, not_false_eq_true, true_and]
  cases hf : field? name with
  | none => simp
  | some f =>
    dsimp only
    by_cases ha : (f.isAddress && (Text.trim value).isEmpty) = true
    · rw [if_pos ha]
      simp only [reduceCtorEq, false_iff]
      rintro ⟨f', l, e, hv, -, -⟩
      cases e
      simp only [Bool.and_eq_true, List.isEmpty_iff] at ha
      exact hv ha.1 ha.2
    · rw [if_neg ha, bind_eq_ok]
      simp only [pure_eq_ok]
      constructor
      · rintro ⟨l, hl, rfl⟩
        refine ⟨f, l, rfl, fun hf hv => ha ?_, hl, rfl⟩
        simp [hf, hv]
      · rintro ⟨f', l, e, -, hl, rfl⟩
        cases e
        exact ⟨l, hl, rfl⟩

/-- the marks that separate branches, terms, and the field of a term from its value -/
def separators : List Char := ['|', '+', ':']

/-- what the conditions of terms have, and `conj` keeps, branches have; what branches have, and `disj`
keeps, accepted filters have.  The values of terms hold no separator -/
theorem compile_levels {P Q : Tree → Prop} (hdisj : ∀ a b, P a → P b → P (.disj a b))
    (hbranch : ∀ a, Q a → P a) (hconj : ∀ a b, Q a → Q b → Q (.conj a b))
    (hterm : ∀ name value negated t, (∀ c ∈ separators, c ∉ value) →
      resolve zone name value negated = .ok t → Q t)
    {e : Text} {t : Tree} (h : compile zone e = .ok t) : P t := by
  obtain ⟨ts, rfl, hts⟩ := compile_eq_ok.1 h
  refine foldTrees_induct hdisj (ne_nil_of_pieces hts) fun s hs => hbranch s ?_
  obtain ⟨branch, hmem, -, hs⟩ := exists_left_of_mem hts hs
  obtain ⟨ss, rfl, hss⟩ := parseBranch_eq_ok.1 hs
  refine foldTrees_induct hconj (ne_nil_of_pieces hss) fun r hr => ?_
  obtain ⟨token, hmem', -, hr⟩ := exists_left_of_mem hss hr
  obtain ⟨name, value, negated, hsp, hres⟩ := parseTerm_eq_ok.1 hr
  refine hterm name value negated r (fun c hc hvalue => ?_) hres
  have htoken := hsp.mem_of_mem_value hvalue
  simp only [separators, List.mem_cons, List.not_mem_nil, or_false] at hc
  rcases hc with rfl | rfl | rfl
  · exact Text.not_mem_of_mem_splitOn hmem (Text.mem_of_mem_splitOn hmem' htoken)
  · exact Text.not_mem_of_mem_splitOn hmem' htoken
  · exact hsp.value_free hvalue

/-- what the condition of every term has, and joining keeps, every accepted filter has -/
theorem compile_induct {P : Tree → Prop} (hconj : ∀ a b, P a → P b → P (.conj a b))
    (hdisj : ∀ a b, P a → P b → P (.disj a b))
    (hterm : ∀ name value negated t, resolve zone name value negated = .ok t → P t)
    {e : Text} {t : Tree} (h : compile zone e = .ok t) : P t :=
  compile_levels hdisj (fun _ => id) hconj
    (fun name value negated t _ hres => hterm name value negated t hres) h

end Mailroom.Filter
