import Mailroom.Proofs.Filter.Grammar

/-!
# Filters put together from filters

Expressions joined by `|` are accepted if all of them are, and so are branches joined by `+`; the tree
is joined from the left out of the trees of the pieces, those of the first part in front.

* `pieceTrees`       the trees of the pieces of a text: of the branches of an expression, or of the terms
  of a branch;
* `Joins`            a reader that joins the trees of the pieces of a text;
* `Composes`         what reading two joined texts has to do with reading each of them;
* `Joins.composes`   a reader that joins the trees of pieces composes;
* `compile_composes` the compiler composes at both separators, and what holds no separator is accepted
  exactly if it is a spelled term whose field and value are.
-/

namespace Mailroom.Filter

/-! ## readers of pieces -/

/-- the trees of the pieces of a text, in order -/
def pieceTrees (sep : Char) (piece : Text → Except Fault Tree) (s : Text) : Except Fault (List Tree) :=
  (Text.splitOn sep s).mapM piece

/-- the reader joins the trees of the pieces of a text, from the left -/
def Joins (sep : Char) (piece : Text → Except Fault Tree) (join : Tree → Tree → Tree)
    (reader : Text → Except Fault Tree) (s : Text) : Prop :=
  ∀ t, reader s = .ok t ↔ ∃ ts, pieceTrees sep piece s = .ok ts ∧ t = foldTrees join ts

/-- two texts joined by a separator are accepted exactly if both are; the tree is joined out of the
trees of the pieces of both, and of just two trees if the second text is one piece -/
structure Composes (sep : Char) (piece : Text → Except Fault Tree) (join : Tree → Tree → Tree)
    (reader : Text → Except Fault Tree) (a b : Text) : Prop where
  accepted : (∃ t, reader (a ++ sep :: b) = .ok t) ↔ (∃ t, reader a = .ok t) ∧ ∃ t, reader b = .ok t
  joined : ∀ t, reader (a ++ sep :: b) = .ok t → ∃ ts us, pieceTrees sep piece a = .ok ts ∧
    pieceTrees sep piece b = .ok us ∧ t = foldTrees join (ts ++ us)
  pair : sep ∉ b → ∀ t u, reader a = .ok t → reader b = .ok u →
    reader (a ++ sep :: b) = .ok (join t u)

section
variable {sep : Char} {piece : Text → Except Fault Tree} {join : Tree → Tree → Tree}
  {reader : Text → Except Fault Tree} {a b : Text}

theorem pieceTrees_ne_nil {s : Text} {ts : List Tree} (h : pieceTrees sep piece s = .ok ts) : ts ≠ [] :=
  ne_nil_of_pieces (mapM_eq_ok.1 h)

/-- the pieces of joined texts are those of the first and then those of the second -/
theorem pieceTrees_append (sep : Char) (piece : Text → Except Fault Tree) (a b : Text) :
    pieceTrees sep piece (a ++ sep :: b) = do
      let ts ← pieceTrees sep piece a
      let us ← pieceTrees sep piece b
      return ts ++ us := by
  rw [pieceTrees, Text.splitOn_append_cons, List.mapM_append]
  rfl

theorem pieceTrees_append_eq_ok {ts : List Tree} :
    pieceTrees sep piece (a ++ sep :: b) = .ok ts ↔
      ∃ us vs, pieceTrees sep piece a = .ok us ∧ pieceTrees sep piece b = .ok vs ∧ ts = us ++ vs := by
  rw [pieceTrees_append, bind_eq_ok]
  constructor
  · rintro ⟨us, hus, h⟩
    obtain ⟨vs, hvs, h⟩ := bind_eq_ok.1 h
    exact ⟨us, vs, hus, hvs, (pure_eq_ok.1 h).symm⟩
  · rintro ⟨us, vs, hus, hvs, rfl⟩
    exact ⟨us, hus, bind_eq_ok.2 ⟨vs, hvs, rfl⟩⟩

theorem foldTrees_append_singleton {ts : List Tree} (hne : ts ≠ []) (u : Tree) :
    foldTrees join (ts ++ [u]) = join (foldTrees join ts) u := by
  cases ts with
  | nil => exact absurd rfl hne
  | cons t ts => exact List.foldl_append

theorem pieceTrees_eq_ok_of_not_mem (hb : sep ∉ b) {ts : List Tree} :
    pieceTrees sep piece b = .ok ts ↔ ∃ u, piece b = .ok u ∧ ts = [u] := by
  rw [pieceTrees, Text.splitOn_of_not_mem hb, mapM_eq_ok, List.forall₂_cons_left_iff]
  simp

/-- a text of one piece is accepted as that piece -/
theorem Joins.eq_ok_iff (h : Joins sep piece join reader b) (hb : sep ∉ b) {u : Tree} :
    reader b = .ok u ↔ piece b = .ok u := by
  rw [h]
  constructor
  · rintro ⟨ts, hts, rfl⟩
    obtain ⟨v, hv, rfl⟩ := (pieceTrees_eq_ok_of_not_mem hb).1 hts
    exact hv
  · exact fun hu => ⟨[u], (pieceTrees_eq_ok_of_not_mem hb).2 ⟨u, hu, rfl⟩, rfl⟩

theorem Joins.composes (ha : Joins sep piece join reader a) (hb : Joins sep piece join reader b)
    (hab : Joins sep piece join reader (a ++ sep :: b)) : Composes sep piece join reader a b := by
  refine ⟨⟨?_, ?_⟩, ?_, ?_⟩
  · rintro ⟨t, h⟩
    obtain ⟨ts, hts, -⟩ := (hab t).1 h
    obtain ⟨us, vs, hus, hvs, -⟩ := pieceTrees_append_eq_ok.1 hts
    exact ⟨⟨_, (ha _).2 ⟨us, hus, rfl⟩⟩, ⟨_, (hb _).2 ⟨vs, hvs, rfl⟩⟩⟩
  · rintro ⟨⟨t, ht⟩, u, hu⟩
    obtain ⟨ts, hts, -⟩ := (ha t).1 ht
    obtain ⟨us, hus, -⟩ := (hb u).1 hu
    exact ⟨_, (hab _).2 ⟨_, pieceTrees_append_eq_ok.2 ⟨ts, us, hts, hus, rfl⟩, rfl⟩⟩
  · intro t h
    obtain ⟨ts, hts, rfl⟩ := (hab t).1 h
    obtain ⟨us, vs, hus, hvs, rfl⟩ := pieceTrees_append_eq_ok.1 hts
    exact ⟨us, vs, hus, hvs, rfl⟩
  · intro hsep t u ht hu
    obtain ⟨ts, hts, rfl⟩ := (ha t).1 ht
    have hone : pieceTrees sep piece b = .ok [u] :=
      (pieceTrees_eq_ok_of_not_mem hsep).2 ⟨u, (hb.eq_ok_iff hsep).1 hu, rfl⟩
    refine (hab _).2 ⟨ts ++ [u], pieceTrees_append_eq_ok.2 ⟨ts, [u], hts, hone, rfl⟩, ?_⟩
    exact (foldTrees_append_singleton (pieceTrees_ne_nil hts) u).symm

end

/-! ## branches and terms -/

variable {zone : Zone}

/-- no term is empty -/
theorem ne_nil_of_parseTerm {token : Text} {t : Tree} (h : parseTerm zone token = .ok t) :
    token ≠ [] := by
  rintro rfl
  cases h

/-- no branch is empty -/
theorem ne_nil_of_parseBranch {branch : Text} {t : Tree} (h : parseBranch zone branch = .ok t) :
    branch ≠ [] := by
  rintro rfl
  cases h

theorem joins_parseBranch (branch : Text) :
    Joins '+' (parseTerm zone) .conj (parseBranch zone) branch := by
  intro t
  rw [parseBranch_eq_ok]
  simp only [pieceTrees, mapM_eq_ok]
  constructor
  · rintro ⟨ts, rfl, hts⟩
    exact ⟨ts, hts.imp fun _ _ h => h.2, rfl⟩
  · rintro ⟨ts, hts, rfl⟩
    exact ⟨ts, rfl, hts.imp fun _ _ h => ⟨ne_nil_of_parseTerm h, h⟩⟩

theorem joins_compile (e : Text) : Joins '|' (parseBranch zone) .disj (compile zone) e := by
  intro t
  rw [compile_eq_ok]
  simp only [pieceTrees, mapM_eq_ok]
  constructor
  · rintro ⟨ts, rfl, hts⟩
    exact ⟨ts, hts.imp fun _ _ h => h.2, rfl⟩
  · rintro ⟨ts, hts, rfl⟩
    exact ⟨ts, rfl, hts.imp fun _ _ h => ⟨ne_nil_of_parseBranch h, h⟩⟩

/-- an expression of one branch is accepted as a branch -/
theorem compile_eq_ok_of_not_mem {e : Text} (he : '|' ∉ e) {t : Tree} :
    compile zone e = .ok t ↔ parseBranch zone e = .ok t := (joins_compile e).eq_ok_iff he

/-- on expressions of one branch the compiler joins the trees of the terms -/
theorem joins_compile_of_not_mem {e : Text} (he : '|' ∉ e) :
    Joins '+' (parseTerm zone) .conj (compile zone) e := by
  intro t
  rw [compile_eq_ok_of_not_mem he]
  exact joins_parseBranch e t

/-- **The compiler is compositional and accepts exactly the grammar.**  Two expressions joined by `|`
are accepted exactly if both are, and the tree is joined from the left out of the trees of the branches
of both; the same holds of two branches joined by `+` and the trees of their terms.  A text without
separators is accepted exactly if it is spelled as a term, with one colon between a field and a value,
and the field takes the value; its tree is the condition that the field makes of the value. -/
theorem compile_composes (zone : Zone) :
    (∀ e₁ e₂ : Text, Composes '|' (parseBranch zone) .disj (compile zone) e₁ e₂) ∧
    (∀ e₁ e₂ : Text, '|' ∉ e₁ → '|' ∉ e₂ → Composes '+' (parseTerm zone) .conj (compile zone) e₁ e₂) ∧
    ∀ e : Text, '|' ∉ e → '+' ∉ e → ∀ t, compile zone e = .ok t ↔
      ∃ name value negated, Spelled e name value negated ∧ resolve zone name value negated = .ok t := by
  refine ⟨fun e₁ e₂ => ?_, fun e₁ e₂ h₁ h₂ => ?_, fun e hbranch hterm t => ?_⟩
  · exact (joins_compile e₁).composes (joins_compile e₂) (joins_compile _)
  · have hboth : '|' ∉ e₁ ++ '+' :: e₂ := by simp [h₁, h₂]
    exact (joins_compile_of_not_mem h₁).composes (joins_compile_of_not_mem h₂)
      (joins_compile_of_not_mem hboth)
  · rw [(joins_compile_of_not_mem hbranch).eq_ok_iff hterm, parseTerm_eq_ok]

/-- two terms, and a branch behind them -/
theorem compile_composes_sample :
    Composes '|' (parseBranch .utc) .disj (compile .utc) "subject:!hello+flag:!seen" "number:3" ∧
    ('|' ∉ "subject:!hello".toList ∧ '|' ∉ "flag:!seen".toList ∧
      Composes '+' (parseTerm .utc) .conj (compile .utc) "subject:!hello" "flag:!seen") ∧
    ('|' ∉ "flag:!seen".toList ∧ '+' ∉ "flag:!seen".toList ∧
      ∀ t, compile .utc "flag:!seen" = .ok t ↔ ∃ name value negated,
        Spelled "flag:!seen" name value negated ∧ resolve .utc name value negated = .ok t) := by
  obtain ⟨hbranches, hterms, hterm⟩ := compile_composes .utc
  exact ⟨hbranches _ _, ⟨by decide, by decide, hterms _ _ (by decide) (by decide)⟩,
    by decide, by decide, hterm _ (by decide) (by decide)⟩

end Mailroom.Filter
