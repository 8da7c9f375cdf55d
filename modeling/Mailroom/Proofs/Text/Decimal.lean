import Mailroom.Text.Integer
import Mailroom.Proofs.Text.Pieces
import Mathlib.Data.Nat.Digits.Defs

/-!
# Numbers in decimal digits

`natural?` and `readInteger` read what `decimal` writes.

* `natural?_decimal`, `readInteger_decimal`   a number in decimal digits is read back;
* `exists_digits_padLeft`   zeros in front of it change nothing;
* `padLeft_decimal_eq_iff`   digits are what their number is written with in that width;
* `isDigit_of_mem_decimal`   its characters are ASCII digits.
-/

namespace Mailroom.Text

/-- a natural number in ASCII digits -/
def natural? (s : Text) : Option Nat :=
  if s.isEmpty then none else (s.mapM asciiDigit?).map digitsValue

theorem digitsValue_append_singleton (ds : List Nat) (d : Nat) :
    digitsValue (ds ++ [d]) = 10 * digitsValue ds + d := by
  simp [digitsValue]

theorem isDigit_of_mem_decimal {n : Nat} {c : Char} (h : c ∈ decimal n) : c.isDigit = true :=
  Nat.isDigit_of_mem_toDigits (by decide) (by decide) h

/-- what holds of the ten digits holds of every digit -/
theorem forall_digit {p : Char → Prop} (hp : ∀ d : Fin 10, p (Char.ofNat (48 + d))) {c : Char}
    (h : c.isDigit = true) : p c := by
  rw [Char.isDigit, Bool.and_eq_true, decide_eq_true_eq, decide_eq_true_eq] at h
  have hge : 48 ≤ c.toNat := h.1
  have hle : c.toNat ≤ 57 := h.2
  have hc := hp ⟨c.toNat - 48, by omega⟩
  rwa [Nat.add_sub_cancel' hge, Char.ofNat_toNat] at hc

theorem isDigit_digitChar {d : Nat} (h : d < 10) : d.digitChar.isDigit = true := by
  have hall : ∀ d : Fin 10, d.val.digitChar.isDigit = true := by decide
  exact hall ⟨d, h⟩

theorem decimal_ne_nil (n : Nat) : decimal n ≠ [] := by
  unfold decimal
  by_cases h : n < 10
  · rw [Nat.toDigits_of_lt_base h]
    simp
  · rw [Nat.toDigits_of_base_le (by decide) (by omega)]
    simp

theorem asciiDigit?_digitChar {d : Nat} (h : d < 10) : asciiDigit? d.digitChar = some d := by
  have hall : ∀ d : Fin 10, asciiDigit? d.val.digitChar = some d.val := by decide
  exact hall ⟨d, h⟩

theorem exists_digits_decimal (n : Nat) :
    ∃ ds, (decimal n).mapM asciiDigit? = some ds ∧ digitsValue ds = n := by
  induction n using Nat.strongRecOn with
  | ind n ih =>
    unfold decimal at ih ⊢
    by_cases h : n < 10
    · rw [Nat.toDigits_of_lt_base h]
      exact ⟨[n], by simp [asciiDigit?_digitChar h], by simp [digitsValue]⟩
    · rw [Nat.toDigits_of_base_le (by decide) (by omega)]
      obtain ⟨ds, hds, hv⟩ := ih (n / 10) (by omega)
      refine ⟨ds ++ [n % 10], ?_, ?_⟩
      · simp [hds, asciiDigit?_digitChar (Nat.mod_lt n (show 0 < 10 by decide))]
      · rw [digitsValue_append_singleton, hv]
        omega

theorem natural?_decimal (n : Nat) : natural? (decimal n) = some n := by
  obtain ⟨ds, hds, hv⟩ := exists_digits_decimal n
  unfold natural?
  rw [if_neg (by simpa using decimal_ne_nil n), hds]
  exact congrArg some hv

/-! ## in a given width -/

theorem isSome_asciiDigit? {c : Char} (h : c.isDigit = true) : (asciiDigit? c).isSome = true :=
  forall_digit (p := fun c => (asciiDigit? c).isSome = true) (by decide) h

theorem isDigit_of_mem_padLeft {k n : Nat} {c : Char} (h : c ∈ padLeft k '0' (decimal n)) :
    c.isDigit = true := by
  rcases List.mem_append.1 h with h | h
  · rw [List.eq_of_mem_replicate h]
    decide
  · exact isDigit_of_mem_decimal h

theorem length_padLeft_decimal {k n : Nat} (hk : 0 < k) (hn : n < 10 ^ k) :
    (padLeft k '0' (decimal n)).length = k := by
  have hle : (decimal n).length ≤ k := Nat.toDigits_length 10 n k hk hn
  rw [padLeft, List.length_append, List.length_replicate]
  omega

theorem exists_digits_padLeft (k n : Nat) :
    ∃ ds, (padLeft k '0' (decimal n)).mapM asciiDigit? = some ds ∧ digitsValue ds = n := by
  obtain ⟨ds, hds, hv⟩ := exists_digits_decimal n
  unfold padLeft
  induction k - (decimal n).length with
  | zero => exact ⟨ds, hds, hv⟩
  | succ j ih =>
    obtain ⟨es, hes, hv⟩ := ih
    refine ⟨0 :: es, ?_, by simpa [digitsValue] using hv⟩
    rw [List.replicate_succ, List.cons_append, List.mapM_cons, hes]
    rfl

/-! ## from digits -/

theorem mapM_cons_eq_some {c : Char} {s : Text} {ds : List Nat}
    (h : (c :: s).mapM asciiDigit? = some ds) :
    ∃ d es, asciiDigit? c = some d ∧ s.mapM asciiDigit? = some es ∧ ds = d :: es := by
  rw [List.mapM_cons] at h
  obtain ⟨d, hd, h⟩ := Option.bind_eq_some_iff.1 h
  obtain ⟨es, hes, h⟩ := Option.bind_eq_some_iff.1 h
  exact ⟨d, es, hd, hes, (Option.some.inj h).symm⟩

theorem asciiDigit?_eq_some {c : Char} {d : Nat} (h : asciiDigit? c = some d) :
    d < 10 ∧ c = d.digitChar := by
  have hdigit : c.isDigit = true := by
    unfold asciiDigit? at h
    split at h
    · rename_i hc
      rw [Char.isDigit, Bool.and_eq_true, decide_eq_true_eq, decide_eq_true_eq]
      exact hc
    · cases h
  have hall := forall_digit (p := fun c => ∀ d, asciiDigit? c = some d → d < 10 ∧ c = d.digitChar)
    (by decide) hdigit
  exact hall d h

theorem eq_map_digitChar_of_mapM {s : Text} {ds : List Nat} (h : s.mapM asciiDigit? = some ds) :
    s = ds.map Nat.digitChar ∧ ∀ d ∈ ds, d < 10 := by
  induction s generalizing ds with
  | nil =>
    cases h
    simp
  | cons c s ih =>
    obtain ⟨d, es, hd, hes, rfl⟩ := mapM_cons_eq_some h
    obtain ⟨hlt, rfl⟩ := asciiDigit?_eq_some hd
    obtain ⟨rfl, hall⟩ := ih hes
    exact ⟨rfl, by simpa using ⟨hlt, hall⟩⟩

/-- zeros in front fill a number up to the digits it was read from -/
theorem padLeft_decimal_digitsValue {ds : List Nat} (hds : ∀ d ∈ ds, d < 10) (hne : ds ≠ []) :
    padLeft ds.length '0' (decimal (digitsValue ds)) = ds.map Nat.digitChar := by
  induction ds using List.reverseRecOn with
  | nil => exact absurd rfl hne
  | append_singleton es d ih =>
    have hd : d < 10 := hds d (by simp)
    have hes : ∀ e ∈ es, e < 10 := fun e he => hds e (by simp [he])
    rw [digitsValue_append_singleton, List.map_append, List.length_append, List.length_singleton]
    by_cases hempty : es = []
    · subst hempty
      simp [digitsValue, decimal, Nat.toDigits_of_lt_base hd, padLeft]
    have hfront := ih hes hempty
    unfold padLeft decimal at hfront ⊢
    have hlen := congrArg List.length hfront
    rcases Nat.eq_zero_or_pos (digitsValue es) with hzero | hpos
    · rw [hzero, Nat.mul_zero, Nat.zero_add, Nat.toDigits_of_lt_base hd]
      rw [hzero] at hfront
      have hpos := List.length_pos_iff.2 hempty
      rw [← hfront, show (Nat.toDigits 10 0) = ['0'] by decide]
      rw [← List.replicate_succ']
      simp [Nat.sub_add_cancel hpos]
    · have hsplit : Nat.toDigits 10 (10 * digitsValue es + d) =
          Nat.toDigits 10 (digitsValue es) ++ [d.digitChar] := by
        rw [Nat.toDigits_of_base_le (by decide) (by omega)]
        rw [show (10 * digitsValue es + d) / 10 = digitsValue es by omega,
          show (10 * digitsValue es + d) % 10 = d by omega]
      rw [hsplit, List.length_append, List.length_singleton, Nat.add_sub_add_right,
        ← List.append_assoc, hfront]
      rfl

/-- in a given width a number is written with the digits it is read from, and no other number is -/
theorem padLeft_decimal_eq_iff {s : Text} {ds : List Nat} (h : s.mapM asciiDigit? = some ds)
    (hs : s ≠ []) {n : Nat} : padLeft s.length '0' (decimal n) = s ↔ n = digitsValue ds := by
  constructor
  · intro hn
    obtain ⟨es, hes, hv⟩ := exists_digits_padLeft s.length n
    rw [hn, h] at hes
    cases hes
    exact hv.symm
  · rintro rfl
    obtain ⟨rfl, hds⟩ := eq_map_digitChar_of_mapM h
    rw [List.length_map]
    exact padLeft_decimal_digitsValue hds (by simpa using hs)

/-! ## as integers -/

theorem length_eq_of_mapM {s : Text} {ds : List Nat} (h : s.mapM asciiDigit? = some ds) :
    s.length = ds.length := by
  induction s generalizing ds with
  | nil =>
    cases h
    rfl
  | cons c s ih =>
    obtain ⟨d, es, -, hes, rfl⟩ := mapM_cons_eq_some h
    rw [List.length_cons, List.length_cons, ih hes]

theorem filterMap_eq_of_mapM {s : Text} {ds : List Nat} (h : s.mapM asciiDigit? = some ds) :
    s.filterMap asciiDigit? = ds := by
  induction s generalizing ds with
  | nil =>
    cases h
    rfl
  | cons c s ih =>
    obtain ⟨d, es, hd, hes, rfl⟩ := mapM_cons_eq_some h
    rw [List.filterMap_cons_some hd, ih hes]

theorem groupedDigits?_of_mapM {s : Text} {ds : List Nat} (h : s.mapM asciiDigit? = some ds)
    {needDigit : Bool} (hs : needDigit = true → s ≠ []) : groupedDigits? needDigit s = some ds := by
  induction s generalizing ds needDigit with
  | nil =>
    cases h
    cases needDigit with
    | true => exact absurd rfl (hs rfl)
    | false => rfl
  | cons c s ih =>
    obtain ⟨d, es, hd, hes, rfl⟩ := mapM_cons_eq_some h
    have hrest : groupedDigits? false s = some es := ih hes (fun h => nomatch h)
    rw [groupedDigits?, digit?_of_asciiDigit? hd]
    dsimp only
    rw [hrest]
    rfl

theorem not_isPadding_of_isDigit {c : Char} (h : c.isDigit = true) : isPadding c = false :=
  forall_digit (p := fun c => isPadding c = false) (by decide) h

section
variable {s : Text} {ds : List Nat} (h : s.mapM asciiDigit? = some ds) (hs : s ≠ [])
include h

theorem isDigit_of_mapM : ∀ c ∈ s, c.isDigit = true := by
  obtain ⟨rfl, hds⟩ := eq_map_digitChar_of_mapM h
  intro c hc
  obtain ⟨d, hd, rfl⟩ := List.mem_map.1 hc
  exact isDigit_digitChar (hds d hd)

include hs

/-- digits with a sign in front -/
theorem readInteger_sign {limit : Nat} (hlen : s.length ≤ limit) (isMinus : Bool) :
    readInteger limit ((if isMinus then '-' else '+') :: s) =
      .ok ((if isMinus then -1 else 1) * (digitsValue ds : Nat)) := by
  have hdigit := isDigit_of_mapM h
  have hgroups : groupedDigits? true s = some ds := groupedDigits?_of_mapM h fun _ => hs
  rw [length_eq_of_mapM h] at hlen
  have htrim : trimWhere isPadding ((if isMinus then '-' else '+') :: s) =
      (if isMinus then '-' else '+') :: s := by
    refine trimWhere_eq_self (List.forall_mem_cons.2 ⟨?_, fun c hc => not_isPadding_of_isDigit (hdigit c hc)⟩)
    cases isMinus <;> decide
  unfold readInteger
  rw [htrim]
  cases isMinus <;> simp [hgroups, hlen]

theorem readInteger_of_mapM {limit : Nat} (hlen : s.length ≤ limit) :
    readInteger limit s = .ok (digitsValue ds : Nat) := by
  have hdigit := isDigit_of_mapM h
  have hgroups : groupedDigits? true s = some ds := groupedDigits?_of_mapM h fun _ => hs
  have htrim : trimWhere isPadding s = s :=
    trimWhere_eq_self fun c hc => not_isPadding_of_isDigit (hdigit c hc)
  rw [length_eq_of_mapM h] at hlen
  obtain ⟨c, r, rfl⟩ := List.exists_cons_of_ne_nil hs
  have hsign : c ≠ '-' ∧ c ≠ '+' := by
    constructor <;>
    · rintro rfl
      exact absurd (hdigit _ List.mem_cons_self) (by decide)
  rw [readInteger, htrim]
  simp [hsign.1, hsign.2, hgroups, hlen]

end

theorem readInteger_decimal {limit n : Nat} (h : (decimal n).length ≤ limit) :
    readInteger limit (decimal n) = .ok n := by
  obtain ⟨ds, hds, rfl⟩ := exists_digits_decimal n
  exact readInteger_of_mapM hds (decimal_ne_nil _) h

theorem padLeft_decimal_ne_nil (k n : Nat) : padLeft k '0' (decimal n) ≠ [] :=
  List.append_ne_nil_of_right_ne_nil _ (decimal_ne_nil n)

theorem readInteger_padLeft {limit k n : Nat} (h : (padLeft k '0' (decimal n)).length ≤ limit) :
    readInteger limit (padLeft k '0' (decimal n)) = .ok n := by
  obtain ⟨ds, hds, hv⟩ := exists_digits_padLeft k n
  rw [readInteger_of_mapM hds (padLeft_decimal_ne_nil k n) h, hv]

theorem decimalInt_of_nonneg {n : Int} (h : 0 ≤ n) : decimalInt n = decimal n.toNat := by
  cases n with
  | ofNat n => rfl
  | negSucc n => exact absurd h (by simp)

end Mailroom.Text
