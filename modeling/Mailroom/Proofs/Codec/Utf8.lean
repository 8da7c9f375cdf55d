import Mailroom.Codec.Charset
import Mailroom.Proofs.Outcome
import Mailroom.Proofs.Text.Ascii
import Mathlib.Data.List.Basic

/-!
# UTF-8 is read back

* `tail`, `next_two`, `next_three`, `next_four`   characters of two, three and four octets;
* `next_encode`         the octets of a character are read as that character;
* `encodeChar_of_two`, `encodeChar_of_three`, `encodeChar_of_four`, `encodeChar_of_next`   and no other octets are;
* `decode?_eq_ok`       octets are read as a text exactly if they are what it is written as;
* `toNat_of_next`       an ASCII character other than NUL is read only from its octet;
* `mem_encodeChar_iff`  the octets below 128 in what a character is written as;
* `Charset.decode_utf8_encode`      a text is read back;
* `Charset.exists_of_mem_keeping`   also where octets that are no UTF-8 are kept.
-/

namespace Mailroom.Utf8

/-- an octet that continues a character -/
def tail (n : Nat) : UInt8 := UInt8.ofNat (n % 64 + 128)

theorem toNat_tail (n : Nat) : (tail n).toNat = n % 64 + 128 := by
  rw [tail, UInt8.toNat_ofNat', Nat.mod_eq_of_lt (by omega)]

theorem continuation_tail (lo hi : UInt8) (need count acc n : Nat) (r : Octets)
    (hn : lo.toNat ≤ n % 64 + 128 ∧ n % 64 + 128 ≤ hi.toNat) :
    continuation lo hi (need + 1) count acc (tail n :: r) =
      continuation 0x80 0xbf need (count + 1) (acc * 64 + n % 64) r := by
  have hin : lo ≤ tail n ∧ tail n ≤ hi := by
    rwa [UInt8.le_iff_toNat_le, UInt8.le_iff_toNat_le, toNat_tail]
  rw [continuation, if_pos hin, toNat_tail, Nat.add_sub_cancel]

theorem next_ofNat {n : Nat} (hn : n < 256) (r : Octets) :
    next (UInt8.ofNat n) r =
      if n < 0x80 then .char (Char.ofNat n) 1
      else if n < 0xc2 then .bad 1 .badStart
      else if n < 0xe0 then continuation 0x80 0xbf 1 1 (n - 0xc0) r
      else if n = 0xe0 then continuation 0xa0 0xbf 2 1 0 r
      else if n = 0xed then continuation 0x80 0x9f 2 1 0xd r
      else if n < 0xf0 then continuation 0x80 0xbf 2 1 (n - 0xe0) r
      else if n = 0xf0 then continuation 0x90 0xbf 3 1 0 r
      else if n < 0xf4 then continuation 0x80 0xbf 3 1 (n - 0xf0) r
      else if n = 0xf4 then continuation 0x80 0x8f 3 1 4 r
      else .bad 1 .badStart := by
  have hnat : (UInt8.ofNat n).toNat = n := by rw [UInt8.toNat_ofNat', Nat.mod_eq_of_lt hn]
  unfold next
  simp only [UInt8.lt_iff_toNat_lt, ← UInt8.toNat_inj, hnat]
  rfl

variable {v : Nat}

theorem next_two (h : 0x80 ≤ v ∧ v < 0x800) (r : Octets) :
    next (UInt8.ofNat (v / 64 % 32 + 192)) (tail v :: r) = .char (Char.ofNat v) 2 := by
  have hv : (v / 64 % 32 + 192 - 192) * 64 + v % 64 = v := by omega
  have htail : 128 ≤ v % 64 + 128 ∧ v % 64 + 128 ≤ 191 := by omega
  rw [next_ofNat (by omega), if_neg (by omega), if_neg (by omega), if_pos (by omega),
    continuation_tail _ _ _ _ _ _ _ htail, hv, continuation]

theorem next_three (h : 0x800 ≤ v ∧ v < 0x10000) (hvalid : v < 0xd800 ∨ 0xdfff < v) (r : Octets) :
    next (UInt8.ofNat (v / 4096 % 16 + 224)) (tail (v / 64) :: tail v :: r) = .char (Char.ofNat v) 3 := by
  have hend : ∀ lo hi : UInt8, lo.toNat ≤ v / 64 % 64 + 128 ∧ v / 64 % 64 + 128 ≤ hi.toNat →
      continuation lo hi 2 1 (v / 4096) (tail (v / 64) :: tail v :: r) = .char (Char.ofNat v) 3 := by
    intro lo hi hbounds
    have hv : (v / 4096 * 64 + v / 64 % 64) * 64 + v % 64 = v := by omega
    have htail : 128 ≤ v % 64 + 128 ∧ v % 64 + 128 ≤ 191 := by omega
    rw [continuation_tail _ _ _ _ _ _ _ hbounds, continuation_tail _ _ _ _ _ _ _ htail, hv, continuation]
  rw [next_ofNat (by omega), if_neg (by omega), if_neg (by omega), if_neg (by omega)]
  by_cases hfirst : v / 4096 = 0
  · have hbounds : 160 ≤ v / 64 % 64 + 128 ∧ v / 64 % 64 + 128 ≤ 191 := by omega
    rw [if_pos (by omega), ← hend 0xa0 0xbf hbounds, hfirst]
  rw [if_neg (by omega)]
  by_cases hlast : v / 4096 = 13
  · have hbounds : 128 ≤ v / 64 % 64 + 128 ∧ v / 64 % 64 + 128 ≤ 159 := by omega
    rw [if_pos (by omega), ← hend 0x80 0x9f hbounds, hlast]
  · have hbounds : 128 ≤ v / 64 % 64 + 128 ∧ v / 64 % 64 + 128 ≤ 191 := by omega
    have hlead : v / 4096 % 16 + 224 - 224 = v / 4096 := by omega
    rw [if_neg (by omega), if_pos (by omega), hlead, hend 0x80 0xbf hbounds]

theorem next_four (h : 0x10000 ≤ v ∧ v < 0x110000) (r : Octets) :
    next (UInt8.ofNat (v / 262144 % 8 + 240)) (tail (v / 4096) :: tail (v / 64) :: tail v :: r) =
      .char (Char.ofNat v) 4 := by
  have hend : ∀ lo hi : UInt8, lo.toNat ≤ v / 4096 % 64 + 128 ∧ v / 4096 % 64 + 128 ≤ hi.toNat →
      continuation lo hi 3 1 (v / 262144) (tail (v / 4096) :: tail (v / 64) :: tail v :: r) =
        .char (Char.ofNat v) 4 := by
    intro lo hi hbounds
    have hv : ((v / 262144 * 64 + v / 4096 % 64) * 64 + v / 64 % 64) * 64 + v % 64 = v := by omega
    have hmiddle : 128 ≤ v / 64 % 64 + 128 ∧ v / 64 % 64 + 128 ≤ 191 := by omega
    have htail : 128 ≤ v % 64 + 128 ∧ v % 64 + 128 ≤ 191 := by omega
    rw [continuation_tail _ _ _ _ _ _ _ hbounds, continuation_tail _ _ _ _ _ _ _ hmiddle,
      continuation_tail _ _ _ _ _ _ _ htail, hv, continuation]
  rw [next_ofNat (by omega), if_neg (by omega), if_neg (by omega), if_neg (by omega), if_neg (by omega),
    if_neg (by omega), if_neg (by omega)]
  by_cases hfirst : v / 262144 = 0
  · have hbounds : 144 ≤ v / 4096 % 64 + 128 ∧ v / 4096 % 64 + 128 ≤ 191 := by omega
    rw [if_pos (by omega), ← hend 0x90 0xbf hbounds, hfirst]
  rw [if_neg (by omega)]
  by_cases hlast : v / 262144 = 4
  · have hbounds : 128 ≤ v / 4096 % 64 + 128 ∧ v / 4096 % 64 + 128 ≤ 143 := by omega
    rw [if_neg (by omega), if_pos (by omega), ← hend 0x80 0x8f hbounds, hlast]
  · have hbounds : 128 ≤ v / 4096 % 64 + 128 ∧ v / 4096 % 64 + 128 ≤ 191 := by omega
    have hlead : v / 262144 % 8 + 240 - 240 = v / 262144 := by omega
    rw [if_pos (by omega), hlead, hend 0x80 0xbf hbounds]

/-- the octets of a character are read as that character -/
theorem next_encode (c : Char) (r : Octets) :
    ∃ b bs, String.utf8EncodeChar c = b :: bs ∧ next b (bs ++ r) = .char c (bs.length + 1) := by
  have hvalid : c.toNat < 0xd800 ∨ 0xdfff < c.toNat ∧ c.toNat < 0x110000 := c.valid
  have hself : Char.ofNat c.toNat = c := Char.ofNat_toNat c
  unfold String.utf8EncodeChar
  rw [show c.val.toNat = c.toNat from rfl]
  generalize c.toNat = v at hvalid hself
  subst hself
  dsimp only
  split
  · refine ⟨_, [], rfl, ?_⟩
    rw [next_ofNat (by omega), if_pos (by omega)]
    rfl
  split
  · exact ⟨_, [tail v], rfl, next_two (by omega) r⟩
  split
  · exact ⟨_, [tail (v / 64), tail v], rfl, next_three (by omega) (by omega) r⟩
  · exact ⟨_, [tail (v / 4096), tail (v / 64), tail v], rfl, next_four (by omega) r⟩

theorem pieces_skip (bs r : Octets) : pieces bs.length (bs ++ r) = pieces 0 r := by
  induction bs with
  | nil => rfl
  | cons b bs ih => exact ih

/-- the pieces of what a text is written as are its characters -/
theorem exists_pieces_encode (c : Char) (s : Text) :
    ∃ bs n, pieces 0 (encode (c :: s)) = (bs, .char c n) :: pieces 0 (encode s) := by
  obtain ⟨b, bs, hc, hnext⟩ := next_encode c (encode s)
  refine ⟨(b :: (bs ++ encode s)).take (bs.length + 1), bs.length + 1, ?_⟩
  rw [encode_cons, hc, List.cons_append, pieces, hnext]
  dsimp only
  rw [Nat.add_sub_cancel, pieces_skip]

/-! ## what octets a character is read from -/

theorem toNat_ofNat (hv : v.isValidChar) : (Char.ofNat v).toNat = v :=
  congrArg Char.toNat (show Char.ofNat v = Char.ofNatAux v hv from dif_pos hv)

theorem encodeChar_ofNat (hv : v.isValidChar) :
    String.utf8EncodeChar (Char.ofNat v) =
      if v ≤ 127 then [UInt8.ofNat v]
      else if v ≤ 2047 then [UInt8.ofNat (v / 64 % 32 + 192), tail v]
      else if v ≤ 65535 then [UInt8.ofNat (v / 4096 % 16 + 224), tail (v / 64), tail v]
      else [UInt8.ofNat (v / 262144 % 8 + 240), tail (v / 4096), tail (v / 64), tail v] := by
  unfold String.utf8EncodeChar
  rw [show (Char.ofNat v).val.toNat = v from toNat_ofNat hv]
  rfl

/-- an octet of continuation holds the last six bits of what is read with it -/
theorem exists_continued {lo hi : UInt8} {need count acc n : Nat} {r : Octets} {c : Char}
    (h : continuation lo hi (need + 1) count acc r = .char c n) (hlo : 128 ≤ lo.toNat) (hhi : hi.toNat ≤ 191) :
    ∃ v r', v / 64 = acc ∧ (lo.toNat ≤ v % 64 + 128 ∧ v % 64 + 128 ≤ hi.toNat) ∧ r = tail v :: r' ∧
      continuation 0x80 0xbf need (count + 1) v r' = .char c n := by
  cases r with
  | nil => cases h
  | cons b r =>
    rw [continuation] at h
    split at h
    · rename_i hbounds
      have hlow := UInt8.le_iff_toNat_le.1 hbounds.1
      have hhigh := UInt8.le_iff_toNat_le.1 hbounds.2
      have hb : b = tail (acc * 64 + (b.toNat - 0x80)) := by
        rw [← UInt8.toNat_inj, toNat_tail]
        omega
      exact ⟨_, r, by omega, by omega, by rw [← hb], h⟩
    · cases h

section
variable {b lo hi : UInt8} {acc n : Nat} {r : Octets} {c : Char}

theorem encodeChar_of_two (h : continuation 0x80 0xbf 1 1 acc r = .char c n) (hb : b.toNat = acc + 192)
    (hacc : 2 ≤ acc ∧ acc < 32) : ∃ bs r', r = bs ++ r' ∧ n = bs.length + 1 ∧ String.utf8EncodeChar c = b :: bs := by
  obtain ⟨v, r, rfl, -, rfl, hlast⟩ := exists_continued h (by decide) (by decide)
  obtain ⟨rfl, rfl⟩ := Piece.char.inj hlast
  have hlead : b = UInt8.ofNat (v / 64 % 32 + 192) := by
    rw [← UInt8.toNat_inj, UInt8.toNat_ofNat']
    omega
  refine ⟨[tail v], r, rfl, rfl, ?_⟩
  rw [encodeChar_ofNat (.inl (by omega)), if_neg (by omega), if_pos (by omega), ← hlead]

/-- the bounds of the second octet keep out what is written in two octets, and the surrogates -/
theorem encodeChar_of_three (h : continuation lo hi 2 1 acc r = .char c n) (hlo : 128 ≤ lo.toNat)
    (hhi : hi.toNat ≤ 191) (hb : b.toNat = acc + 224) (hacc : acc < 16) (hleast : 32 ≤ acc * 64 + (lo.toNat - 128))
    (hsurrogate : acc = 13 → hi.toNat ≤ 159) :
    ∃ bs r', r = bs ++ r' ∧ n = bs.length + 1 ∧ String.utf8EncodeChar c = b :: bs := by
  obtain ⟨u, r, rfl, hu, rfl, hsecond⟩ := exists_continued h hlo hhi
  obtain ⟨v, r, rfl, hv, rfl, hlast⟩ := exists_continued hsecond (by decide) (by decide)
  obtain ⟨rfl, rfl⟩ := Piece.char.inj hlast
  have hvalid : v.isValidChar := by
    unfold Nat.isValidChar
    omega
  have hlead : b = UInt8.ofNat (v / 4096 % 16 + 224) := by
    rw [← UInt8.toNat_inj, UInt8.toNat_ofNat']
    omega
  refine ⟨[tail (v / 64), tail v], r, rfl, rfl, ?_⟩
  rw [encodeChar_ofNat hvalid, if_neg (by omega), if_neg (by omega), if_pos (by omega), ← hlead]

/-- the bounds of the second octet keep out what is written in three octets, and what is no character -/
theorem encodeChar_of_four (h : continuation lo hi 3 1 acc r = .char c n) (hlo : 128 ≤ lo.toNat)
    (hhi : hi.toNat ≤ 191) (hb : b.toNat = acc + 240) (hacc : acc < 5) (hleast : 16 ≤ acc * 64 + (lo.toNat - 128))
    (hmost : acc = 4 → hi.toNat ≤ 143) :
    ∃ bs r', r = bs ++ r' ∧ n = bs.length + 1 ∧ String.utf8EncodeChar c = b :: bs := by
  obtain ⟨t, r, rfl, ht, rfl, hsecond⟩ := exists_continued h hlo hhi
  obtain ⟨u, r, rfl, hu, rfl, hthird⟩ := exists_continued hsecond (by decide) (by decide)
  obtain ⟨v, r, rfl, hv, rfl, hlast⟩ := exists_continued hthird (by decide) (by decide)
  obtain ⟨rfl, rfl⟩ := Piece.char.inj hlast
  have hvalid : v.isValidChar := by
    unfold Nat.isValidChar
    omega
  have hlead : b = UInt8.ofNat (v / 262144 % 8 + 240) := by
    rw [← UInt8.toNat_inj, UInt8.toNat_ofNat']
    omega
  have hdiv : v / 64 / 64 = v / 4096 := by omega
  refine ⟨[tail (v / 64 / 64), tail (v / 64), tail v], r, rfl, rfl, ?_⟩
  rw [encodeChar_ofNat hvalid, if_neg (by omega), if_neg (by omega), if_neg (by omega), ← hlead, hdiv]

/-- a character is read only from the octets that it is written as -/
theorem encodeChar_of_next (h : next b r = .char c n) :
    ∃ bs r', r = bs ++ r' ∧ n = bs.length + 1 ∧ String.utf8EncodeChar c = b :: bs := by
  have hlead := b.toNat_lt
  unfold next at h
  simp only [UInt8.lt_iff_toNat_lt, ← UInt8.toNat_inj] at h
  change (if b.toNat < 0x80 then _ else if b.toNat < 0xc2 then _ else if b.toNat < 0xe0 then _ else
    if b.toNat = 0xe0 then _ else if b.toNat = 0xed then _ else if b.toNat < 0xf0 then _ else
    if b.toNat = 0xf0 then _ else if b.toNat < 0xf4 then _ else if b.toNat = 0xf4 then _ else _) = _ at h
  split at h
  · obtain ⟨rfl, rfl⟩ := Piece.char.inj h
    refine ⟨[], r, rfl, rfl, ?_⟩
    rw [encodeChar_ofNat (.inl (by omega)), if_pos (by omega), UInt8.ofNat_toNat]
  split at h
  · cases h
  split at h
  · exact encodeChar_of_two h (by omega) (by omega)
  split at h
  · exact encodeChar_of_three h (by decide) (by decide) (by omega) (by omega) (by decide) (by decide)
  split at h
  · exact encodeChar_of_three h (by decide) (by decide) (by omega) (by omega) (by decide) (by decide)
  split at h
  · exact encodeChar_of_three h (by decide) (by decide) (by omega) (by omega)
      (by show 32 ≤ _ * 64 + (128 - 128); omega) (by omega)
  split at h
  · exact encodeChar_of_four h (by decide) (by decide) (by omega) (by omega) (by decide) (by decide)
  split at h
  · exact encodeChar_of_four h (by decide) (by decide) (by omega) (by omega)
      (by show 16 ≤ _ * 64 + (128 - 128); omega) (by omega)
  split at h
  · exact encodeChar_of_four h (by decide) (by decide) (by omega) (by omega) (by decide) (by decide)
  · cases h

end

/-- **Octets are read as a text exactly if they are what the text is written as.** -/
theorem decode?_eq_ok {b : Octets} {s : Text} : decode? b = .ok s ↔ b = encode s := by
  have hassemble : ∀ {place b}, assemble place (pieces 0 b) = .ok s ↔ b = encode s := by
    induction s with
    | nil =>
      intro place b
      cases b with
      | nil => exact iff_of_true rfl rfl
      | cons b r =>
        refine iff_of_false (fun h => ?_) (List.cons_ne_nil _ _)
        rw [pieces] at h
        cases hp : next b r with
        | char c n =>
          rw [hp] at h
          obtain ⟨a, -, ha⟩ := map_eq_ok.1 h
          cases ha
        | bad n why =>
          rw [hp] at h
          cases h
    | cons c s ih =>
      intro place b
      constructor
      · intro h
        cases b with
        | nil => cases h
        | cons b r =>
          rw [pieces] at h
          cases hp : next b r with
          | char d n =>
            obtain ⟨bs, r, rfl, rfl, hd⟩ := encodeChar_of_next hp
            rw [hp] at h
            obtain ⟨s', hs, heq⟩ := map_eq_ok.1 h
            obtain ⟨rfl, rfl⟩ := List.cons.inj heq
            rw [Nat.add_sub_cancel, pieces_skip, ih] at hs
            rw [encode_cons, hd, hs, List.cons_append]
          | bad n why =>
            rw [hp] at h
            cases h
      · rintro rfl
        obtain ⟨bs, n, hpieces⟩ := exists_pieces_encode c s
        rw [hpieces, assemble, ih.2 rfl]
        rfl
  exact hassemble

/-! ## what a character can come from -/

/-- continued octets give no small number -/
theorem exists_of_continuation {lo hi : UInt8} {need count acc n : Nat} {r : Octets} {c : Char}
    (h : continuation lo hi (need + 1) count acc r = .char c n) :
    ∃ v, (acc * 64 + (lo.toNat - 0x80)) * 64 ^ need ≤ v ∧ c = Char.ofNat v := by
  induction need generalizing lo hi count acc r with
  | zero =>
    cases r with
    | nil => cases h
    | cons b r =>
      rw [continuation] at h
      split at h
      · rename_i hbounds
        rw [continuation] at h
        obtain ⟨rfl, -⟩ := Piece.char.inj h
        have hlow := UInt8.le_iff_toNat_le.1 hbounds.1
        exact ⟨_, by omega, rfl⟩
      · cases h
  | succ need ih =>
    cases r with
    | nil => cases h
    | cons b r =>
      rw [continuation] at h
      split at h
      · rename_i hbounds
        obtain ⟨v, hv, hc⟩ := ih h
        have hlow := UInt8.le_iff_toNat_le.1 hbounds.1
        refine ⟨v, Nat.le_trans ?_ hv, hc⟩
        rw [Nat.pow_succ', ← Nat.mul_assoc]
        refine Nat.mul_le_mul_right _ (Nat.le_trans (Nat.mul_le_mul_right 64 ?_) (Nat.le_add_right _ _))
        omega
      · cases h

theorem toNat_ofNat_eq_zero {v : Nat} (hv : 128 ≤ v) (h : (Char.ofNat v).toNat < 128) : (Char.ofNat v).toNat = 0 := by
  by_cases hvalid : v.isValidChar
  · rw [toNat_ofNat hvalid] at h
    exact absurd h (Nat.not_lt.2 hv)
  · exact congrArg Char.toNat (dif_neg hvalid)

/-- an ASCII character other than NUL is read only from its octet -/
theorem toNat_of_next {b : UInt8} {r : Octets} {c : Char} {n : Nat} (h : next b r = .char c n)
    (hc : c.toNat < 128) : c.toNat = b.toNat ∨ c.toNat = 0 := by
  have hhigh : ∀ {lo hi : UInt8} {need count acc : Nat}, continuation lo hi (need + 1) count acc r = .char c n →
      128 ≤ (acc * 64 + (lo.toNat - 0x80)) * 64 ^ need → c.toNat = b.toNat ∨ c.toNat = 0 := by
    intro lo hi need count acc h hlow
    obtain ⟨v, hv, rfl⟩ := exists_of_continuation h
    exact .inr (toNat_ofNat_eq_zero (Nat.le_trans hlow hv) hc)
  have hlead := b.toNat_lt
  unfold next at h
  simp only [UInt8.lt_iff_toNat_lt, ← UInt8.toNat_inj] at h
  change (if b.toNat < 0x80 then _ else if b.toNat < 0xc2 then _ else if b.toNat < 0xe0 then _ else
    if b.toNat = 0xe0 then _ else if b.toNat = 0xed then _ else if b.toNat < 0xf0 then _ else
    if b.toNat = 0xf0 then _ else if b.toNat < 0xf4 then _ else if b.toNat = 0xf4 then _ else _) = _ at h
  split at h
  · obtain ⟨rfl, -⟩ := Piece.char.inj h
    exact .inl (toNat_ofNat (.inl (by omega)))
  split at h
  · cases h
  split at h
  · exact hhigh h (by show 128 ≤ ((b.toNat - 0xc0) * 64 + (128 - 128)) * 64 ^ 0; omega)
  split at h
  · exact hhigh h (by decide)
  split at h
  · exact hhigh h (by decide)
  split at h
  · exact hhigh h (by show 128 ≤ ((b.toNat - 0xe0) * 64 + (128 - 128)) * 64 ^ 1; omega)
  split at h
  · exact hhigh h (by decide)
  split at h
  · exact hhigh h (by show 128 ≤ ((b.toNat - 0xf0) * 64 + (128 - 128)) * 64 ^ 2; omega)
  split at h
  · exact hhigh h (by decide)
  · cases h

theorem exists_of_mem_pieces {k : Nat} {b o : Octets} {p : Piece} (h : (o, p) ∈ pieces k b) :
    (∀ x ∈ o, x ∈ b) ∧ ∃ x ∈ b, ∃ r, next x r = p := by
  induction b generalizing k with
  | nil => cases k <;> cases h
  | cons x b ih =>
    have hlater : ∀ {k}, (o, p) ∈ pieces k b → (∀ y ∈ o, y ∈ x :: b) ∧ ∃ y ∈ x :: b, ∃ r, next y r = p := by
      intro k h
      obtain ⟨ho, y, hy, hp⟩ := ih h
      exact ⟨fun z hz => List.mem_cons_of_mem x (ho z hz), y, List.mem_cons_of_mem x hy, hp⟩
    cases k with
    | succ k => exact hlater h
    | zero =>
      rcases List.mem_cons.1 h with h | h
      · obtain ⟨rfl, rfl⟩ := Prod.mk.inj h
        exact ⟨fun y hy => List.mem_of_mem_take hy, x, List.mem_cons_self, b, rfl⟩
      · exact hlater h

/-! ## ASCII and line breaks -/

theorem encodeChar_of_ascii {c : Char} (h : c.toNat < 128) :
    String.utf8EncodeChar c = [UInt8.ofNat c.toNat] := by
  have hv : c.val.toNat ≤ 127 := Nat.le_of_lt_succ h
  unfold String.utf8EncodeChar
  rw [if_pos hv]
  rfl

theorem le_of_mem_encodeChar {c : Char} (h : 128 ≤ c.toNat) : ∀ b ∈ String.utf8EncodeChar c, 128 ≤ b.toNat := by
  have hv : ¬c.val.toNat ≤ 127 := Nat.not_le.2 h
  unfold String.utf8EncodeChar
  rw [if_neg hv]
  split
  · simp only [List.forall_mem_cons, UInt8.toNat_ofNat']
    exact ⟨by omega, by omega, nofun⟩
  split
  · simp only [List.forall_mem_cons, UInt8.toNat_ofNat']
    exact ⟨by omega, by omega, by omega, nofun⟩
  · simp only [List.forall_mem_cons, UInt8.toNat_ofNat']
    exact ⟨by omega, by omega, by omega, by omega, nofun⟩

/-- an octet below 128 stands for a character of that number and in no other one -/
theorem mem_encodeChar_iff {c : Char} {b : UInt8} (hb : b.toNat < 128) :
    b ∈ String.utf8EncodeChar c ↔ c.toNat = b.toNat := by
  rcases Nat.lt_or_ge c.toNat 128 with hc | hc
  · rw [encodeChar_of_ascii hc, List.mem_singleton, ← UInt8.toNat_inj, UInt8.toNat_ofNat',
      Nat.mod_eq_of_lt (by omega), eq_comm]
  · have hhigh := le_of_mem_encodeChar hc b
    constructor
    · intro hmem
      exact absurd (hhigh hmem) (by omega)
    · omega

end Mailroom.Utf8

namespace Mailroom.Charset

theorem named?_utf8 : named? "utf-8" = some .utf8 := by decide

/-- **What a text is written as in UTF-8 is read as that text.** -/
theorem decode_utf8_encode (s : Text) : Charset.utf8.decode (Utf8.encode s) = .text s := by
  have hgood : goodText? (pieces .utf8 (Utf8.encode s)) = some s := by
    induction s with
    | nil => rfl
    | cons c s ih =>
      obtain ⟨bs, n, hpieces⟩ := Utf8.exists_pieces_encode c s
      have hstep : pieces .utf8 (Utf8.encode (c :: s)) = .char c :: pieces .utf8 (Utf8.encode s) := by
        show utf8Pieces _ = _
        rw [utf8Pieces, hpieces]
        rfl
      rw [hstep, goodText?, ih]
      rfl
  unfold decode
  split
  · rename_i hempty
    cases s with
    | nil => rfl
    | cons c s =>
      obtain ⟨b, bs, hc, -⟩ := Utf8.next_encode c (Utf8.encode s)
      rw [Utf8.encode_cons, hc] at hempty
      cases hempty
  · rw [if_neg (by decide), hgood]

/-- no ASCII character but NUL is read that is no octet of its own -/
theorem exists_of_mem_keeping {b : Octets} {c : Char} (h : c ∈ Charset.utf8.keeping b)
    (hc : 0 < c.toNat ∧ c.toNat < 128) : ∃ x ∈ b, x.toNat = c.toNat := by
  obtain ⟨p, hp, hmem⟩ := List.mem_flatMap.1 h
  obtain ⟨⟨o, q⟩, hq, rfl⟩ := List.mem_map.1 hp
  obtain ⟨ho, x, hx, r, hnext⟩ := Utf8.exists_of_mem_pieces hq
  cases q with
  | char d n =>
    obtain rfl : c = d := List.mem_singleton.1 hmem
    have hread := Utf8.toNat_of_next hnext hc.2
    exact ⟨x, hx, by omega⟩
  | bad n why =>
    obtain ⟨y, hy, rfl⟩ := List.mem_map.1 hmem
    refine ⟨y, ho y hy, ?_⟩
    have hself : ∀ y : UInt8, (if y < 128 then Char.ofNat y.toNat else Text.rawOctet y).toNat < 128 →
        y.toNat = (if y < 128 then Char.ofNat y.toNat else Text.rawOctet y).toNat :=
      Text.forall_octet (by decide +kernel)
    exact hself y hc.2

end Mailroom.Charset
