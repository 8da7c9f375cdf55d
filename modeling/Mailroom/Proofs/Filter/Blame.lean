import Mailroom.Proofs.Filter.Refusal

/-!
# What a refusal blames

An expression is read from the left.  The refusal names a part of the expression: the expression
itself, a branch, a token, or the field or the value of a token.

* `Reached`          a piece in front of which all pieces of the text are accepted;
* `parseBranch_eq_error`, `compile_eq_error`   a branch fails like its first token that fails, an
  expression like its first branch;
* `infix_of_resolve`, `infix_of_parseTerm`, `infix_of_parseBranch`   the fragment of a refusal is a part
  of what was read;
* `compile_blames`   the refusal of an expression blames a part of it, the first token that fails, and
  stays the same whatever follows.
-/

namespace Mailroom.Filter

/-! ## the first piece that fails -/

/-- all pieces of the text in front of the piece are accepted -/
def Reached (sep : Char) (read : Text → Except Fault Tree) (s piece : Text) : Prop :=
  ∃ before after, Text.splitOn sep s = before ++ piece :: after ∧
    ∀ p ∈ before, p ≠ [] ∧ ∃ t, read p = .ok t

section
variable {sep : Char} {read : Text → Except Fault Tree} {s piece : Text}

theorem Reached.isInfix (h : Reached sep read s piece) : piece <:+: s := by
  obtain ⟨before, after, hs, -⟩ := h
  apply Text.infix_of_mem_splitOn
  rw [hs]
  exact List.mem_append_right before List.mem_cons_self

/-- what follows another separator comes behind all pieces -/
theorem Reached.append (h : Reached sep read s piece) (s' : Text) :
    Reached sep read (s ++ sep :: s') piece := by
  obtain ⟨before, after, hs, hbefore⟩ := h
  refine ⟨before, after ++ Text.splitOn sep s', ?_, hbefore⟩
  rw [Text.splitOn_append_cons, hs, List.append_assoc, List.cons_append]

theorem readPieces_eq_error_iff_reached {empty y : Fault} :
    readPieces empty read (Text.splitOn sep s) = .error y ↔ ∃ piece, Reached sep read s piece ∧
      (piece = [] ∧ y = empty ∨ piece ≠ [] ∧ read piece = .error y) := by
  rw [readPieces_eq_error]
  constructor
  · intro h
    obtain ⟨before, piece, after, hs, hbefore, hpiece⟩ := h
    exact ⟨piece, ⟨before, after, hs, hbefore⟩, hpiece⟩
  · intro h
    obtain ⟨piece, ⟨before, after, hs, hbefore⟩, hpiece⟩ := h
    exact ⟨before, piece, after, hs, hbefore, hpiece⟩

end

variable {zone : Zone}

theorem parseBranch_eq_error {branch : Text} {y : Fault} :
    parseBranch zone branch = .error y ↔ ∃ token, Reached '+' (parseTerm zone) branch token ∧
      (token = [] ∧ y = .filter ⟨.emptyTerm, branch⟩ ∨
        token ≠ [] ∧ parseTerm zone token = .error y) := by
  rw [← readPieces_eq_error_iff_reached, parseBranch, bind_eq_error]
  simp only [pure_ne_error, and_false, exists_false, or_false]

theorem compile_eq_error {e : Text} {y : Fault} (he : e ≠ []) :
    compile zone e = .error y ↔ ∃ branch, Reached '|' (parseBranch zone) e branch ∧
      (branch = [] ∧ y = .filter ⟨.emptyBranch, e⟩ ∨
        branch ≠ [] ∧ parseBranch zone branch = .error y) := by
  rw [← readPieces_eq_error_iff_reached, compile, if_neg (by simpa using he), bind_eq_error]
  simp only [pure_ne_error, and_false, exists_false, or_false]

/-! ## fragments -/

section
variable {value : Text} {x : FilterError}

theorem fragment_of_parseNumber (h : parseNumber value = .error (.filter x)) : x.fragment = value := by
  obtain ⟨sign, hread⟩ := parseNumber_eq value
  rw [hread] at h
  split at h
  · split at h <;> cases h
  · cases h
    rfl

theorem fragment_of_parseTimestamp (h : parseTimestamp zone value = .error (.filter x)) :
    x.fragment = value := by
  unfold parseTimestamp at h
  by_cases hshape : hasShape timestampShape value = true
  · rw [if_pos hshape] at h
    cases hr : readTimestamp? value with
    | none =>
      rw [hr] at h
      cases h
      rfl
    | some r =>
      rw [hr] at h
      obtain ⟨c, -, hc⟩ := orFault_eq_error.1 h
      cases hc
  · rw [if_neg hshape] at h
    cases h
    rfl

theorem fragment_of_parseSize (h : parseSize value = .error x) : x.fragment = value := by
  unfold parseSize at h
  by_cases hlen : value.length < 3
  · rw [if_pos hlen] at h
    cases h
    rfl
  · rw [if_neg hlen] at h
    dsimp only at h
    split at h
    · cases h
      rfl
    · split at h
      · cases h
        rfl
      · split at h <;> cases h
        rfl

theorem fragment_of_flagName (h : flagName value = .error x) : x.fragment = value := by
  unfold flagName at h
  by_cases hempty : value.isEmpty = true
  · rw [if_pos hempty] at h
    cases h
    rfl
  · rw [if_neg hempty] at h
    split at h
    · cases h
    · split at h
      · cases h
      · split at h <;> cases h
        rfl

/-- a refusal of a value blames the value -/
theorem fragment_of_leaf {f : Field} (h : f.leaf zone value = .error (.filter x)) :
    x.fragment = value := by
  cases f with
  | body | subject | sender | recipient kind => cases h
  | number =>
    rcases bind_eq_error.1 h with h | ⟨n, -, h⟩
    · exact fragment_of_parseNumber h
    · cases h
  | received cmp | sent cmp =>
    rcases bind_eq_error.1 h with h | ⟨s, -, h⟩
    · exact fragment_of_parseTimestamp h
    · cases h
  | size cmp =>
    rcases bind_eq_error.1 h with h | ⟨n, -, h⟩
    · obtain ⟨y, hy, hx⟩ := orFault_eq_error.1 h
      cases hx
      exact fragment_of_parseSize hy
    · cases h

theorem fragment_of_resolve {name : Text} {negated : Bool}
    (h : resolve zone name value negated = .error (.filter x)) :
    x.fragment = name ∨ x.fragment = value := by
  unfold resolve at h
  by_cases hflag : name = flagField
  · rw [if_pos hflag] at h
    rcases bind_eq_error.1 h with h | ⟨flag, -, h⟩
    · obtain ⟨y, hy, hx⟩ := orFault_eq_error.1 h
      cases hx
      exact .inr (fragment_of_flagName hy)
    · cases h
  · rw [if_neg hflag] at h
    cases hf : field? name with
    | none =>
      rw [hf] at h
      cases h
      exact .inl rfl
    | some f =>
      rw [hf] at h
      dsimp only at h
      split at h
      · cases h
        exact .inr rfl
      · rcases bind_eq_error.1 h with h | ⟨l, -, h⟩
        · exact .inr (fragment_of_leaf h)
        · cases h

end

section
variable {x : FilterError}

theorem Spelled.isInfix {token name value : Text} {negated : Bool}
    (h : Spelled token name value negated) : name <:+: token ∧ value <:+: token := by
  rw [h.eq]
  constructor
  · exact (List.prefix_append name _).isInfix
  · apply List.IsSuffix.isInfix
    cases negated with
    | true => exact ⟨name ++ [':', '!'], by simp⟩
    | false => exact ⟨name ++ [':'], by simp⟩

theorem infix_of_parseTerm {token : Text} (h : parseTerm zone token = .error (.filter x)) :
    x.fragment <:+: token := by
  by_cases hs : ∃ name value negated, Spelled token name value negated
  · obtain ⟨name, value, negated, hs⟩ := hs
    rw [parseTerm_of_spelled hs] at h
    obtain ⟨hname, hvalue⟩ := hs.isInfix
    rcases fragment_of_resolve h with hx | hx
    · rwa [hx]
    · rwa [hx]
  · rw [parseTerm_of_not_spelled fun name value negated hsp => hs ⟨name, value, negated, hsp⟩] at h
    cases h
    exact List.infix_refl token

theorem infix_of_parseBranch {branch : Text} (h : parseBranch zone branch = .error (.filter x)) :
    x.fragment <:+: branch := by
  obtain ⟨token, htoken, ⟨-, hx⟩ | ⟨-, hx⟩⟩ := parseBranch_eq_error.1 h
  · cases hx
    exact List.infix_refl branch
  · exact (infix_of_parseTerm hx).trans htoken.isInfix

theorem infix_of_compile {e : Text} (h : compile zone e = .error (.filter x)) : x.fragment <:+: e := by
  by_cases he : e = []
  · subst he
    cases h
    exact List.infix_refl []
  · obtain ⟨branch, hbranch, ⟨-, hx⟩ | ⟨-, hx⟩⟩ := (compile_eq_error he).1 h
    · cases hx
      exact List.infix_refl e
    · exact (infix_of_parseBranch hx).trans hbranch.isInfix

end

/-- **Blame.**  The refusal of an expression names a part of it, and its message ends with this part.
Unless the whole expression is to blame, because it or one of its branches is empty, the refusal is that
of the first token that fails, and it stays the same whatever is joined to the expression. -/
theorem compile_blames (zone : Zone) (e : Text) (x : FilterError)
    (h : compile zone e = .error (.filter x)) :
    x.fragment <:+: e ∧ (": ".toList ++ x.fragment) <:+ x.message ∧
      (x.cause ≠ .emptyFilter → x.cause ≠ .emptyBranch →
        (∃ branch token, Reached '|' (parseBranch zone) e branch ∧
          Reached '+' (parseTerm zone) branch token ∧
          (token = [] ∧ x = ⟨.emptyTerm, branch⟩ ∨
            token ≠ [] ∧ parseTerm zone token = .error (.filter x))) ∧
        ∀ e', compile zone (e ++ '|' :: e') = .error (.filter x)) := by
  have hmessage : (": ".toList ++ x.fragment) <:+ x.message := by
    show _ <:+ x.cause.message ++ ": ".toList ++ x.fragment
    rw [List.append_assoc]
    exact List.suffix_append _ _
  refine ⟨infix_of_compile h, hmessage, ?_⟩
  intro hfilter hbranch
  have he : e ≠ [] := by
    rintro rfl
    cases h
    exact hfilter rfl
  obtain ⟨branch, hreached, ⟨-, hx⟩ | ⟨hne, hx⟩⟩ := (compile_eq_error he).1 h
  · cases hx
    exact absurd rfl hbranch
  constructor
  · obtain ⟨token, htoken, ⟨hempty, hy⟩ | hy⟩ := parseBranch_eq_error.1 hx
    · cases hy
      exact ⟨branch, token, hreached, htoken, .inl ⟨hempty, rfl⟩⟩
    · exact ⟨branch, token, hreached, htoken, .inr hy⟩
  · intro e'
    rw [compile_eq_error (by simp)]
    exact ⟨branch, hreached.append e', .inr ⟨hne, hx⟩⟩

/-- the second of four tokens is to blame, for its value -/
theorem compile_blames_unit :
    compile .utc "subject:a+size_le:!1gb+b|c" = .error (.filter ⟨.badSizeUnit, "1gb"⟩) ∧
    "1gb".toList <:+: "subject:a+size_le:!1gb+b|c".toList ∧
    (": ".toList ++ "1gb".toList) <:+ FilterError.message ⟨.badSizeUnit, "1gb"⟩ ∧
    (∃ branch token, Reached '|' (parseBranch .utc) "subject:a+size_le:!1gb+b|c" branch ∧
      Reached '+' (parseTerm .utc) branch token ∧
      (token = [] ∧ (⟨.badSizeUnit, "1gb"⟩ : FilterError) = ⟨.emptyTerm, branch⟩ ∨
        token ≠ [] ∧ parseTerm .utc token = .error (.filter ⟨.badSizeUnit, "1gb"⟩))) ∧
    ∀ e', compile .utc ("subject:a+size_le:!1gb+b|c" ++ '|' :: e')
      = .error (.filter ⟨.badSizeUnit, "1gb"⟩) := by
  have h : compile .utc "subject:a+size_le:!1gb+b|c" = .error (.filter ⟨.badSizeUnit, "1gb"⟩) := by
    decide
  obtain ⟨hpart, hmessage, hfirst⟩ := compile_blames .utc _ _ h
  exact ⟨h, hpart, hmessage, hfirst (by decide) (by decide)⟩

end Mailroom.Filter
