import Mailroom.Proofs.Filter.Grammar
import Mailroom.Proofs.Time.Clock

/-!
# How reading an expression fails

An expression is refused with a `FilterError`, of one of the three kinds `form`, `field` and `value`.
Two conversions inside a value are not guarded: a number may have more digits than can be read, and a
date may lie where the clock of the zone cannot show it.

* `Overlong`       a number of too many digits;
* `OffClock`       a timestamp that names an existing time which cannot be converted;
* `Escapes`        a token with such a value;
* `EscapesFirst`   an expression whose first token that cannot be read is such a token;
* `compile_refuses_iff`   every other expression is compiled or refused.
-/

namespace Mailroom.Filter

/-- a number, with a sign or without, of more digits than can be read -/
def Overlong (value : Text) : Prop :=
  ∃ sign digits, value = sign ++ digits ∧ (sign = [] ∨ sign = ['+'] ∨ sign = ['-']) ∧
    (∀ c ∈ digits, Text.isDigit c) ∧ maxDigits < digits.length

/-- a timestamp of the right shape that names an existing time, which the clock of the zone does not
convert -/
def OffClock (zone : Zone) (value : Text) : Prop :=
  hasShape timestampShape value ∧ ∃ r, readTimestamp? value = some r ∧
    ∃ c, zone.readLocal r.toSeconds 0 false = .error c

/-- the names of the fields whose value is a date -/
def dateFields : List Text :=
  ["received", "received_after", "received_before", "sent", "sent_after", "sent_before"]

/-- a token whose value is well formed and cannot be converted -/
def Escapes (zone : Zone) (token : Text) : Prop :=
  ∃ name value negated, Spelled token name value negated ∧
    (name = "number".toList ∧ Overlong value ∨ name ∈ dateFields ∧ OffClock zone value)

/-- the first token that cannot be read is one whose value cannot be converted -/
def EscapesFirst (zone : Zone) (e : Text) : Prop :=
  ∃ before branch after, Text.splitOn '|' e = before ++ branch :: after ∧
    (∀ b ∈ before, b ≠ [] ∧ ∃ t, parseBranch zone b = .ok t) ∧
    ∃ front token back, Text.splitOn '+' branch = front ++ token :: back ∧
      (∀ s ∈ front, s ≠ [] ∧ ∃ t, parseTerm zone s = .ok t) ∧ Escapes zone token

/-- a fault that is no refusal of the expression -/
def IsForeign (x : Fault) : Prop := ∀ r, x ≠ .filter r

/-! ## numbers -/

theorem digits?_eq_some {s : Text} {ns : List Nat} (h : Text.digits? s = some ns) :
    (∀ c ∈ s, Text.isDigit c) ∧ ns.length = s.length := by
  induction s generalizing ns with
  | nil => cases h; simp
  | cons c s ih =>
    simp only [Text.digits?, List.mapM_cons, Option.bind_eq_bind, Option.bind_eq_some_iff] at h
    obtain ⟨n, hn, ns', hns, h⟩ := h
    cases h
    obtain ⟨hs, hlen⟩ := ih hns
    refine ⟨?_, by simp [hlen]⟩
    rw [List.forall_mem_cons]
    exact ⟨by simp [Text.isDigit, hn], hs⟩

theorem exists_digits? {s : Text} (h : ∀ c ∈ s, Text.isDigit c) : ∃ ns, Text.digits? s = some ns := by
  induction s with
  | nil => exact ⟨[], rfl⟩
  | cons c s ih =>
    rw [List.forall_mem_cons] at h
    obtain ⟨ns, hns⟩ := ih h.2
    obtain ⟨n, hn⟩ := Option.isSome_iff_exists.1 h.1
    refine ⟨n :: ns, ?_⟩
    rw [Text.digits?] at hns ⊢
    rw [List.mapM_cons, hn, hns]
    rfl

/-- a number without its sign -/
def unsigned : Text → Text
  | '-' :: r => r
  | '+' :: r => r
  | r => r

theorem exists_sign (value : Text) :
    ∃ sign, value = sign ++ unsigned value ∧ (sign = [] ∨ sign = ['+'] ∨ sign = ['-']) := by
  unfold unsigned
  split
  · exact ⟨['-'], rfl, .inr (.inr rfl)⟩
  · exact ⟨['+'], rfl, .inr (.inl rfl)⟩
  · exact ⟨[], rfl, .inl rfl⟩

theorem unsigned_of_digits {sign digits : Text} (hs : sign = [] ∨ sign = ['+'] ∨ sign = ['-'])
    (hd : ∀ c ∈ digits, Text.isDigit c) : unsigned (sign ++ digits) = digits := by
  rcases hs with rfl | rfl | rfl
  · unfold unsigned
    rw [List.nil_append]
    split
    · exact absurd (hd '-' List.mem_cons_self) (by decide)
    · exact absurd (hd '+' List.mem_cons_self) (by decide)
    · rfl
  · rfl
  · rfl

theorem unsigned_of_no_sign {value : Text} (hminus : ∀ r, value ≠ '-' :: r)
    (hplus : ∀ r, value ≠ '+' :: r) : unsigned value = value := by
  unfold unsigned
  split
  · exact absurd rfl (hminus _)
  · exact absurd rfl (hplus _)
  · rfl

theorem parseNumber_eq (value : Text) : ∃ sign : Int, parseNumber value =
    match unsigned value, Text.digits? (unsigned value) with
    | _ :: _, some ns =>
      if maxDigits < ns.length then .error (.tooManyDigits ns.length)
      else .ok (sign * (Text.digitsValue ns : Nat))
    | _, _ => .error (.filter ⟨.badNumber, value⟩) := by
  unfold parseNumber
  split
  rename_i sign ds hpair
  have hds : ds = unsigned value := by
    split at hpair
    · cases hpair
      rfl
    · cases hpair
      rfl
    · rename_i hminus hplus
      cases hpair
      exact (unsigned_of_no_sign hminus hplus).symm
  subst hds
  exact ⟨sign, rfl⟩

theorem parseNumber_foreign {value : Text} {x : Fault} (h : parseNumber value = .error x)
    (hx : IsForeign x) : Overlong value ∧ ∃ n, x = .tooManyDigits n := by
  obtain ⟨sign, e⟩ := parseNumber_eq value
  rw [e] at h
  split at h
  · rename_i _ _ ns _ hns
    split at h
    · rename_i hlong
      obtain ⟨hd, hlen⟩ := digits?_eq_some hns
      obtain ⟨s, hv, hs⟩ := exists_sign value
      exact ⟨⟨s, unsigned value, hv, hs, hd, hlen ▸ hlong⟩, ns.length, (Except.error.inj h).symm⟩
    · cases h
  · exact absurd (Except.error.inj h).symm (hx _)

theorem parseNumber_of_overlong {value : Text} (h : Overlong value) :
    ∃ n, parseNumber value = .error (.tooManyDigits n) := by
  obtain ⟨s, digits, rfl, hs, hd, hlong⟩ := h
  obtain ⟨sign, e⟩ := parseNumber_eq (s ++ digits)
  rw [unsigned_of_digits hs hd] at e
  obtain ⟨ns, hns⟩ := exists_digits? hd
  have hlen := (digits?_eq_some hns).2
  cases digits with
  | nil => exact absurd hlong (Nat.not_lt_zero _)
  | cons c r =>
    refine ⟨ns.length, ?_⟩
    rw [e, hns]
    exact if_pos (hlen ▸ hlong)

/-! ## timestamps -/

variable {zone : Zone}

theorem parseTimestamp_foreign {value : Text} {x : Fault} (h : parseTimestamp zone value = .error x)
    (hx : IsForeign x) : OffClock zone value ∧ ∃ c, x = .clock c := by
  unfold parseTimestamp at h
  by_cases hshape : hasShape timestampShape value
  · rw [if_pos hshape] at h
    cases hr : readTimestamp? value with
    | none =>
      rw [hr] at h
      exact absurd (Except.error.inj h).symm (hx _)
    | some r =>
      rw [hr] at h
      obtain ⟨c, hc, rfl⟩ := orFault_eq_error.1 h
      exact ⟨⟨hshape, r, hr, c, hc⟩, c, rfl⟩
  · rw [if_neg hshape] at h
    exact absurd (Except.error.inj h).symm (hx _)

theorem parseTimestamp_of_offClock {value : Text} (h : OffClock zone value) :
    ∃ c, parseTimestamp zone value = .error (.clock c) := by
  obtain ⟨hshape, r, hr, c, hc⟩ := h
  refine ⟨c, ?_⟩
  unfold parseTimestamp
  rw [if_pos hshape, hr]
  exact orFault_eq_error.2 ⟨c, hc, rfl⟩

/-! ## fields -/

/-- whether the value of a field is a date -/
def Field.isDate : Field → Bool
  | .received _ | .sent _ => true
  | _ => false

theorem field?_eq_number {name : Text} {f : Field} (h : field? name = some f) :
    f = .number ↔ name = "number".toList := by
  have hnames : ∀ p ∈ fieldNames, p.2 = Field.number ↔ p.1 = "number".toList := by decide
  obtain ⟨l, r, e, -⟩ := List.lookup_eq_some_iff.1 h
  exact hnames (name, f) (by rw [e]; simp)

theorem field?_isDate {name : Text} {f : Field} (h : field? name = some f) :
    f.isDate = true ↔ name ∈ dateFields := by
  have hnames : ∀ p ∈ fieldNames, p.2.isDate = true ↔ p.1 ∈ dateFields := by decide
  obtain ⟨l, r, e, -⟩ := List.lookup_eq_some_iff.1 h
  exact hnames (name, f) (by rw [e]; simp)

/-- a fault of a value that cannot be converted -/
def IsConversion (x : Fault) : Prop := (∃ n, x = .tooManyDigits n) ∨ ∃ c, x = .clock c

theorem leaf_foreign {f : Field} {value : Text} {x : Fault} (h : f.leaf zone value = .error x)
    (hx : IsForeign x) : (f = .number ∧ Overlong value ∨ f.isDate ∧ OffClock zone value) ∧
      IsConversion x := by
  cases f with
  | body | subject | sender | recipient kind => cases h
  | number =>
    rcases bind_eq_error.1 h with h | ⟨_, -, h⟩
    · obtain ⟨hv, hn⟩ := parseNumber_foreign h hx
      exact ⟨.inl ⟨rfl, hv⟩, .inl hn⟩
    · cases h
  | received cmp | sent cmp =>
    rcases bind_eq_error.1 h with h | ⟨_, -, h⟩
    · obtain ⟨hv, hc⟩ := parseTimestamp_foreign h hx
      exact ⟨.inr ⟨rfl, hv⟩, .inr hc⟩
    · cases h
  | size cmp =>
    rcases bind_eq_error.1 h with h | ⟨_, -, h⟩
    · obtain ⟨r, -, rfl⟩ := orFault_eq_error.1 h
      exact absurd rfl (hx r)
    · cases h

theorem leaf_of_foreign {f : Field} {value : Text}
    (h : f = .number ∧ Overlong value ∨ f.isDate ∧ OffClock zone value) :
    ∃ x, f.leaf zone value = .error x ∧ IsForeign x := by
  rcases h with ⟨rfl, hv⟩ | ⟨hf, hv⟩
  · obtain ⟨n, hn⟩ := parseNumber_of_overlong hv
    exact ⟨_, bind_eq_error.2 (.inl hn), nofun⟩
  · obtain ⟨c, hc⟩ := parseTimestamp_of_offClock hv
    cases f with
    | received cmp | sent cmp => exact ⟨_, bind_eq_error.2 (.inl hc), nofun⟩
    | _ => cases hf

theorem resolve_foreign {name value : Text} {negated : Bool} {x : Fault}
    (h : resolve zone name value negated = .error x) (hx : IsForeign x) :
    (name = "number".toList ∧ Overlong value ∨ name ∈ dateFields ∧ OffClock zone value) ∧
      IsConversion x := by
  unfold resolve at h
  by_cases hn : name = flagField
  · rw [if_pos hn] at h
    rcases bind_eq_error.1 h with h | ⟨_, -, h⟩
    · obtain ⟨r, -, rfl⟩ := orFault_eq_error.1 h
      exact absurd rfl (hx r)
    · cases h
  rw [if_neg hn] at h
  cases hf : field? name with
  | none =>
    rw [hf] at h
    exact absurd (Except.error.inj h).symm (hx _)
  | some f =>
    rw [hf] at h
    dsimp only at h
    split at h
    · exact absurd (Except.error.inj h).symm (hx _)
    · rcases bind_eq_error.1 h with h | ⟨_, -, h⟩
      · rw [← field?_eq_number hf, ← field?_isDate hf]
        exact leaf_foreign h hx
      · cases h

theorem resolve_of_foreign {name value : Text} (negated : Bool)
    (h : name = "number".toList ∧ Overlong value ∨ name ∈ dateFields ∧ OffClock zone value) :
    ∃ x, resolve zone name value negated = .error x ∧ IsForeign x := by
  have hknown : ∀ n ∈ "number".toList :: dateFields, n ≠ flagField ∧
      (field? n).any (fun f => !f.isAddress) := by decide
  obtain ⟨hn, hany⟩ := hknown name (by
    rcases h with ⟨rfl, -⟩ | ⟨hd, -⟩
    · exact List.mem_cons_self
    · exact List.mem_cons_of_mem _ hd)
  obtain ⟨f, hf, ha⟩ := (Option.any_eq_true _ _).1 hany
  rw [← field?_eq_number hf, ← field?_isDate hf] at h
  obtain ⟨x, hx, hfx⟩ := leaf_of_foreign h
  refine ⟨x, ?_, hfx⟩
  unfold resolve
  rw [if_neg hn, hf]
  dsimp only
  have haddress : f.isAddress = false := by simpa using ha
  rw [haddress, Bool.false_and, if_neg Bool.false_ne_true]
  exact bind_eq_error.2 (.inl hx)

/-! ## tokens, branches and expressions -/

theorem parseTerm_foreign {token : Text} {x : Fault} (h : parseTerm zone token = .error x)
    (hx : IsForeign x) : Escapes zone token ∧ IsConversion x := by
  by_cases hs : ∃ name value negated, Spelled token name value negated
  · obtain ⟨name, value, negated, hs⟩ := hs
    rw [parseTerm_of_spelled hs] at h
    obtain ⟨hv, hc⟩ := resolve_foreign h hx
    exact ⟨⟨name, value, negated, hs, hv⟩, hc⟩
  · rw [parseTerm_of_not_spelled fun name value negated hsp => hs ⟨name, value, negated, hsp⟩] at h
    exact absurd (Except.error.inj h).symm (hx _)

theorem parseTerm_of_escapes {token : Text} (h : Escapes zone token) :
    ∃ x, parseTerm zone token = .error x ∧ IsForeign x := by
  obtain ⟨name, value, negated, hs, hv⟩ := h
  rw [parseTerm_of_spelled hs]
  exact resolve_of_foreign negated hv

/-- a fault of a kind that empty pieces do not have comes from the first piece that cannot be read -/
theorem readPieces_fault_iff {α : Type} {empty : Fault} {f : Text → Except Fault α} {ps : List Text}
    {P : Fault → Prop} (hempty : ¬P empty) :
    (∃ x, readPieces empty f ps = .error x ∧ P x) ↔ ∃ before p after, ps = before ++ p :: after ∧
      (∀ q ∈ before, q ≠ [] ∧ ∃ a, f q = .ok a) ∧ p ≠ [] ∧ ∃ x, f p = .error x ∧ P x := by
  simp only [readPieces_eq_error]
  constructor
  · rintro ⟨x, ⟨before, p, after, e, hb, hp⟩, hx⟩
    rcases hp with ⟨-, rfl⟩ | ⟨hne, hp⟩
    · exact absurd hx hempty
    · exact ⟨before, p, after, e, hb, hne, x, hp, hx⟩
  · rintro ⟨before, p, after, e, hb, hne, x, hp, hx⟩
    exact ⟨x, ⟨before, p, after, e, hb, .inr ⟨hne, hp⟩⟩, hx⟩

section
variable {P : Fault → Prop} (hP : ∀ x, P x → IsForeign x)
include hP

theorem parseBranch_fault_iff {branch : Text} :
    (∃ x, parseBranch zone branch = .error x ∧ P x) ↔ ∃ front token back,
      Text.splitOn '+' branch = front ++ token :: back ∧
      (∀ s ∈ front, s ≠ [] ∧ ∃ t, parseTerm zone s = .ok t) ∧
      token ≠ [] ∧ ∃ x, parseTerm zone token = .error x ∧ P x := by
  have hempty : ¬P (.filter ⟨.emptyTerm, branch⟩) := fun h => hP _ h _ rfl
  rw [← readPieces_fault_iff hempty]
  unfold parseBranch
  simp only [bind_eq_error, pure_ne_error, and_false, exists_false, or_false]

theorem compile_fault_iff {e : Text} :
    (∃ x, compile zone e = .error x ∧ P x) ↔ ∃ before branch after,
      Text.splitOn '|' e = before ++ branch :: after ∧
      (∀ b ∈ before, b ≠ [] ∧ ∃ t, parseBranch zone b = .ok t) ∧
      branch ≠ [] ∧ ∃ x, parseBranch zone branch = .error x ∧ P x := by
  have hempty : ¬P (.filter ⟨.emptyBranch, e⟩) := fun h => hP _ h _ rfl
  rw [← readPieces_fault_iff hempty]
  unfold compile
  by_cases he : e = []
  · -- no fault of this kind: the expression is empty, and so is its only piece
    subst he
    constructor
    · rintro ⟨x, h, hx⟩
      exact absurd (Except.error.inj h).symm (hP x hx _)
    · rintro ⟨x, h, hx⟩
      exact absurd (Except.error.inj h).symm (hP x hx _)
  · rw [if_neg (by simpa using he)]
    simp only [bind_eq_error, pure_ne_error, and_false, exists_false, or_false]

end

theorem parseBranch_foreign_iff {branch : Text} :
    (∃ x, parseBranch zone branch = .error x ∧ IsForeign x) ↔ ∃ front token back,
      Text.splitOn '+' branch = front ++ token :: back ∧
      (∀ s ∈ front, s ≠ [] ∧ ∃ t, parseTerm zone s = .ok t) ∧ Escapes zone token := by
  rw [parseBranch_fault_iff fun _ => id]
  constructor
  · rintro ⟨front, token, back, e, hf, -, x, h, hx⟩
    exact ⟨front, token, back, e, hf, (parseTerm_foreign h hx).1⟩
  · rintro ⟨front, token, back, e, hf, h⟩
    have hne : token ≠ [] := by
      obtain ⟨name, value, negated, hs, -⟩ := h
      rw [hs.eq]
      simp
    exact ⟨front, token, back, e, hf, hne, parseTerm_of_escapes h⟩

theorem compile_foreign_iff {e : Text} :
    (∃ x, compile zone e = .error x ∧ IsForeign x) ↔ EscapesFirst zone e := by
  rw [compile_fault_iff fun _ => id]
  constructor
  · rintro ⟨before, branch, after, e, hb, -, h⟩
    exact ⟨before, branch, after, e, hb, parseBranch_foreign_iff.1 h⟩
  · rintro ⟨before, branch, after, e, hb, h⟩
    refine ⟨before, branch, after, e, hb, ?_, parseBranch_foreign_iff.2 h⟩
    rintro rfl
    -- an empty branch has only an empty token
    obtain ⟨x, h, hx⟩ := parseBranch_foreign_iff.2 h
    exact absurd (Except.error.inj h).symm (hx _)

theorem isConversion_of_compile {e : Text} {x : Fault} (h : compile zone e = .error x)
    (hx : IsForeign x) : IsConversion x := by
  by_contra hc
  have hP : ∀ y, IsForeign y ∧ ¬IsConversion y → IsForeign y := fun _ => And.left
  obtain ⟨_, branch, _, -, -, -, hbranch⟩ := (compile_fault_iff hP).1 ⟨x, h, hx, hc⟩
  obtain ⟨_, token, _, -, -, -, y, hy, hfy, hcy⟩ := (parseBranch_fault_iff hP).1 hbranch
  exact hcy (parseTerm_foreign hy hfy).2

/-! ## the first and the last year -/

theorem isValid_of_readTimestamp? {value : Text} {r : Reading} (h : readTimestamp? value = some r) :
    r.IsValid := by
  unfold readTimestamp? at h
  split at h
  · simp only [Option.bind_eq_bind, Option.bind_eq_some_iff] at h
    obtain ⟨_, -, _, -, _, -, _, -, _, -, _, -, h⟩ := h
    split at h
    · rename_i hv
      cases h
      exact hv
    · cases h
  · cases h

/-- in a zone without offsets of a day and more, only dates of the first and the last year that clocks
show cannot be converted -/
theorem year_of_offClock {value : Text} (hz : zone.OffsetsWithinDay)
    (h : OffClock zone value) : ∃ r, readTimestamp? value = some r ∧
      (r.date.year = 1 ∨ r.date.year = 9999) := by
  obtain ⟨-, r, hr, c, hc⟩ := h
  refine ⟨r, hr, ?_⟩
  have hv := isValid_of_readTimestamp? hr
  have hfirst := hv.2.1
  have hlast := hv.2.2.1
  by_contra hyear
  obtain ⟨hm, hm'⟩ := Reading.margin hv (by omega) (by omega)
  have hday : (0 : Int) < secondsPerDay := by decide
  rw [Zone.readLocal_of_margin hz (by omega) (by omega)] at hc
  cases hc

/-- **When reading an expression fails outside its own errors.**  An expression is compiled or refused
with a `FilterError` unless its first token that cannot be read is a number of too many digits or a
date that the clock does not convert.  Such a token stops the program with the fault of the
conversion; in a zone without offsets of a day and more the date is in the year 1 or 9999. -/
theorem compile_refuses_iff (zone : Zone) (e : Text) :
    (((∃ t, compile zone e = .ok t) ∨ ∃ r, compile zone e = .error (.filter r)) ↔
      ¬EscapesFirst zone e) ∧
    (EscapesFirst zone e → (∃ n, compile zone e = .error (.tooManyDigits n)) ∨
      ∃ c, compile zone e = .error (.clock c)) ∧
    (zone.OffsetsWithinDay → ∀ value, OffClock zone value →
      ∃ r, readTimestamp? value = some r ∧ (r.date.year = 1 ∨ r.date.year = 9999)) := by
  refine ⟨⟨?_, ?_⟩, ?_, fun hz value => year_of_offClock hz⟩
  · intro h hesc
    obtain ⟨x, hx, hforeign⟩ := compile_foreign_iff.2 hesc
    rcases h with ⟨t, h⟩ | ⟨r, h⟩
    · rw [h] at hx
      cases hx
    · rw [h] at hx
      exact hforeign r (Except.error.inj hx).symm
  · intro hesc
    cases h : compile zone e with
    | ok t => exact .inl ⟨t, rfl⟩
    | error x =>
      by_cases hx : IsForeign x
      · exact absurd (compile_foreign_iff.1 ⟨x, h, hx⟩) hesc
      · simp only [IsForeign, not_forall, not_not] at hx
        obtain ⟨r, rfl⟩ := hx
        exact .inr ⟨r, rfl⟩
  · intro hesc
    obtain ⟨x, hx, hforeign⟩ := compile_foreign_iff.2 hesc
    rcases isConversion_of_compile hx hforeign with ⟨n, rfl⟩ | ⟨c, rfl⟩
    · exact .inl ⟨n, hx⟩
    · exact .inr ⟨c, hx⟩

/-- the midnight that begins the year 1, two hours east of Greenwich, is neither read nor refused -/
theorem compile_first_midnight :
    ¬((∃ t, compile ⟨⟨7200, "EET"⟩, none⟩ "received:0001-01-01T00.00.00" = .ok t) ∨
      ∃ r, compile ⟨⟨7200, "EET"⟩, none⟩ "received:0001-01-01T00.00.00" = .error (.filter r)) := by
  have h : compile ⟨⟨7200, "EET"⟩, none⟩ "received:0001-01-01T00.00.00"
      = .error (.clock (.yearOutOfRange 0)) := by decide
  rw [h]
  simp

end Mailroom.Filter
