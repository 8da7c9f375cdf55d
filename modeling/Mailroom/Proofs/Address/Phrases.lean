import Mailroom.Proofs.Address.Shown
import Mailroom.Proofs.Lists
import Mailroom.Proofs.Text.Ascii

/-!
# Plain pieces before the lenient reader

The lenient reader of address lists takes quotes, comments and routes as they come.  Here it reads what
has none of them: accepted addresses, and names in front of an angle bracket.

* `addrSpec_read`       an accepted address is read to its end;
* `phrase_plain`        a text without special characters is read as its words;
* `phrase_quoted`       a quoted text is read as one word, its escapes undone;
* `address_bare`, `address_named`   one mailbox of one address, without a name and with one.
-/

namespace Mailroom.Address

section
variable {c d : Char} {a r s : Text} {done cs : List Text}

/-! ## where the reader stops -/

/-- a character that no blank, line break or comment begins with -/
def Stops (c : Char) : Prop := isBreak c = false ∧ isSpace c = false ∧ c ≠ '('

instance (c : Char) : Decidable (Stops c) := inferInstanceAs (Decidable (_ ∧ _ ∧ _))

theorem gap_stop (hc : Stops c) : gap (c :: r) = ([], [], c :: r) := by
  obtain ⟨hbreak, hspace, hopen⟩ := hc
  rw [gap]
  simp [hbreak, hspace, hopen]

theorem skip_stop (hc : Stops c) : Cursor.skip ⟨c :: r, cs⟩ = ([], ⟨c :: r, cs⟩) := by
  simp [Cursor.skip, gap_stop hc]

theorem stops_of_not_endsAtom (hc : endsAtom c = false) : Stops c := by
  rw [endsAtom, Bool.or_eq_false_iff, Bool.or_eq_false_iff] at hc
  refine ⟨hc.2, hc.1.2, ?_⟩
  rintro rfl
  exact absurd hc.1.1 (by decide)

theorem isAscii_of_isAlnum (h : isAlnum c = true) : Text.isAscii c = true := by
  have hle : ∀ {a b : Char}, a ≤ b → a.toNat ≤ b.toNat := fun h => h
  unfold isAlnum Text.isAsciiLetter Text.asciiDigit? at h
  rw [Text.isAscii, decide_eq_true_iff]
  simp only [Bool.or_eq_true, Bool.and_eq_true, decide_eq_true_eq] at h
  rcases h with (⟨-, hz⟩ | ⟨-, hz⟩) | hdigit
  · exact Nat.lt_of_le_of_lt (hle hz) (by decide)
  · exact Nat.lt_of_le_of_lt (hle hz) (by decide)
  · split at hdigit
    case isTrue hd => exact Nat.lt_of_le_of_lt (hle hd.2) (by decide)
    case isFalse => cases hdigit

theorem isAscii_of_isAtomChar (h : isAtomChar c = true) : Text.isAscii c = true := by
  have hmarks : ∀ c ∈ atomMarks, Text.isAscii c = true := List.all_eq_true.1 (by decide)
  rw [isAtomChar, Bool.or_eq_true] at h
  rcases h with h | h
  · exact isAscii_of_isAlnum h
  · exact hmarks c (List.contains_iff_mem.1 h)

/-- an atom's character ends no atom and is no blank -/
theorem plain_of_isAtomChar (h : isAtomChar c = true) : endsAtom c = false ∧ Text.isBlank c = false := by
  have hlt : c.toNat < 128 := of_decide_eq_true (isAscii_of_isAtomChar h)
  exact Text.forall_ascii
    (p := fun c => isAtomChar c = true → endsAtom c = false ∧ Text.isBlank c = false) (by decide +kernel) hlt h

theorem exists_cons_of_isAtom (ha : isAtom a = true) : ∃ c t, a = c :: t ∧ ∀ d ∈ a, endsAtom d = false := by
  have hchar : ∀ d ∈ a, endsAtom d = false := fun d hd => (plain_of_isAtomChar (isAtomChar_of_mem ha hd)).1
  cases a with
  | nil => cases ha
  | cons c t => exact ⟨c, t, rfl, hchar⟩

/-! ## the part in front of the `@` -/

theorem dropBlank_atom (ha : isAtom a = true) : dropBlank (a :: done) = a :: done := by
  have htrim : Text.trim a = a :=
    Text.trimWhere_eq_self fun c hc => (plain_of_isAtomChar (isAtomChar_of_mem ha hc)).2
  obtain ⟨c, t, rfl, -⟩ := exists_cons_of_isAtom ha
  rw [dropBlank, htrim]
  rfl

theorem localPart_atom (ha : isAtom a = true) (hd : endsAtom d = true) (hstop : Stops d) :
    localPart ⟨a ++ d :: r, cs⟩ done = localPart ⟨d :: r, cs⟩ (a :: done) := by
  obtain ⟨c, t, rfl, hc⟩ := exists_cons_of_isAtom ha
  have hfront : ∀ x ∈ c :: t, (!endsAtom x) = true := fun x hx => by simp [hc x hx]
  have hend : (!endsAtom d) = false := by simp [hd]
  have htake := takeWhile_stop (r := r) hfront hend
  have hdrop := dropWhile_stop (r := r) hfront hend
  have hdot : c ≠ '.' := by
    rintro rfl
    exact absurd (hc _ List.mem_cons_self) (by decide)
  have hquote : c ≠ '"' := by
    rintro rfl
    exact absurd (hc _ List.mem_cons_self) (by decide)
  rw [List.cons_append] at htake hdrop ⊢
  rw [localPart]
  simp only [hdot, hquote, hc c List.mem_cons_self, htake, hdrop, skip_stop hstop]
  simp

theorem localPart_dot (hc : Stops c) :
    localPart ⟨'.' :: c :: r, cs⟩ done = localPart ⟨c :: r, cs⟩ (['.'] :: dropBlank done) := by
  rw [localPart]
  simp [skip_stop hc]

theorem localPart_at : localPart ⟨'@' :: r, cs⟩ done = (dropBlank done, ⟨'@' :: r, cs⟩) := by
  rw [localPart]
  simp [show endsAtom '@' = true by decide]

/-- atoms with dots between them, up to the `@` -/
theorem localPart_read {as : List Text} (hne : as ≠ []) (has : ∀ a ∈ as, isAtom a = true) :
    ∃ ps, localPart ⟨['.'].intercalate as ++ '@' :: r, cs⟩ done = (ps, ⟨'@' :: r, cs⟩) ∧
      ps.reverse.flatten = done.reverse.flatten ++ ['.'].intercalate as := by
  induction as generalizing done with
  | nil => exact absurd rfl hne
  | cons a as ih =>
    have ha := has a List.mem_cons_self
    cases as with
    | nil =>
      refine ⟨a :: done, ?_, by simp⟩
      rw [List.intercalate_singleton, localPart_atom ha (by decide) (by decide),
        localPart_at, dropBlank_atom ha]
    | cons b as =>
      have hrest := fun x hx => has x (List.mem_cons_of_mem a hx)
      obtain ⟨ps, hps, hflat⟩ := @ih (['.'] :: a :: done) (List.cons_ne_nil b as) hrest
      refine ⟨ps, ?_, ?_⟩
      · obtain ⟨c, t, rfl, hc⟩ := exists_cons_of_isAtom (hrest b List.mem_cons_self)
        have hnext : ['.'].intercalate ((c :: t) :: as) ++ '@' :: r
            = c :: (t ++ as.flatMap (['.'] ++ ·) ++ '@' :: r) := by
          rw [Text.intercalate_cons]
          rfl
        rw [List.intercalate_cons_cons, List.append_assoc, List.append_assoc, List.singleton_append,
          localPart_atom ha (by decide) (by decide), hnext,
          localPart_dot (stops_of_not_endsAtom (hc c List.mem_cons_self)), dropBlank_atom ha, ← hnext]
        exact hps
      · rw [hflat, List.intercalate_cons_cons]
        simp

/-! ## the part behind the `@` -/

/-- what may stand behind an address: nothing, or the bracket that closes it -/
def Closes (r : Text) : Prop := ∀ c ∈ r.head?, c = '>'

theorem domain_dot : domain ⟨'.' :: r, cs⟩ a = domain ⟨r, cs⟩ (a ++ ['.']) := by
  rw [domain]
  simp [isSpace]

theorem domain_end (hr : Closes r) : domain ⟨r, cs⟩ a = (a, ⟨r, cs⟩) := by
  cases r with
  | nil => rw [domain]
  | cons c r =>
    obtain rfl : c = '>' := hr c rfl
    rw [domain]
    simp [isSpace, show endsAtom '>' = true by decide]

theorem domain_atom (ha : isAtom a = true) (hr : ∀ c ∈ r.head?, endsAtom c = true) :
    domain ⟨a ++ r, cs⟩ s = domain ⟨r, cs⟩ (s ++ a) := by
  obtain ⟨c, t, rfl, hc⟩ := exists_cons_of_isAtom ha
  have hfront : ∀ x ∈ c :: t, (!endsAtom x) = true := fun x hx => by simp [hc x hx]
  have hend : ∀ e ∈ r.head?, (!endsAtom e) = false := fun e he => by simp [hr e he]
  have htake := takeWhile_append_of_head hfront hend
  have hdrop := dropWhile_append_of_head hfront hend
  have hne : ∀ d : Char, endsAtom d = true → c ≠ d := by
    rintro d hd rfl
    exact absurd hd (by simp [hc c List.mem_cons_self])
  have hspace : isSpace c = false := (stops_of_not_endsAtom (hc c List.mem_cons_self)).2.1
  rw [List.cons_append] at htake hdrop ⊢
  rw [domain]
  simp only [hspace, hne '(' (by decide), hne '[' (by decide), hne '.' (by decide), hne '@' (by decide),
    hc c List.mem_cons_self, htake, hdrop]
  simp

/-- atoms with dots between them, up to the end of the address -/
theorem domain_read {bs : List Text} (hbs : ∀ b ∈ bs, isAtom b = true) (hr : Closes r) :
    domain ⟨['.'].intercalate bs ++ r, cs⟩ s = (s ++ ['.'].intercalate bs, ⟨r, cs⟩) := by
  induction bs generalizing s with
  | nil => simpa using domain_end hr
  | cons b bs ih =>
    have hb := hbs b List.mem_cons_self
    cases bs with
    | nil =>
      have hend : ∀ c ∈ r.head?, endsAtom c = true := by
        intro c hc
        rw [hr c hc]
        decide
      rw [List.intercalate_singleton, domain_atom hb hend, domain_end hr]
    | cons x bs =>
      rw [List.intercalate_cons_cons, List.append_assoc, List.append_assoc, List.singleton_append,
        domain_atom hb (by simpa using by decide), domain_dot,
        ih fun y hy => hbs y (List.mem_cons_of_mem b hy)]
      simp

/-! ## whole addresses -/

theorem exists_cons_of_isAddrSpec (h : isAddrSpec s = true) : ∃ c t, s = c :: t ∧ endsAtom c = false := by
  obtain ⟨as, bs, rfl, has, -, hatom, -⟩ := exists_atoms h
  obtain ⟨a, as, rfl⟩ := List.exists_cons_of_ne_nil has
  obtain ⟨c, t, rfl, hc⟩ := exists_cons_of_isAtom (hatom a List.mem_cons_self)
  rw [Text.intercalate_cons]
  exact ⟨c, _, rfl, hc c List.mem_cons_self⟩

theorem skip_addrSpec (h : isAddrSpec s = true) : Cursor.skip ⟨s ++ r, cs⟩ = ([], ⟨s ++ r, cs⟩) := by
  obtain ⟨c, t, rfl, hc⟩ := exists_cons_of_isAddrSpec h
  exact skip_stop (stops_of_not_endsAtom hc)

/-- an accepted address is read to its end -/
theorem addrSpec_read (h : isAddrSpec s = true) (hr : Closes r) : addrSpec ⟨s ++ r, cs⟩ = (s, ⟨r, cs⟩) := by
  have hskip : Cursor.skip ⟨s ++ r, cs⟩ = ([], ⟨s ++ r, cs⟩) := skip_addrSpec h
  obtain ⟨as, bs, rfl, has, hbs, hatom, hlabel⟩ := exists_atoms h
  have hlocal : ∃ ps, localPart ⟨['.'].intercalate as ++ '@' :: (['.'].intercalate bs ++ r), cs⟩ []
      = (ps, ⟨'@' :: (['.'].intercalate bs ++ r), cs⟩) ∧ ps.reverse.flatten = ['.'].intercalate as :=
    localPart_read has hatom
  obtain ⟨ps, hps, hfront⟩ := hlocal
  obtain ⟨b, bs, rfl⟩ := List.exists_cons_of_ne_nil hbs
  obtain ⟨c, t, rfl, hc⟩ := exists_cons_of_isAtom (hlabel b List.mem_cons_self)
  have hdomain : domain ⟨['.'].intercalate ((c :: t) :: bs) ++ r, cs⟩ []
      = (['.'].intercalate ((c :: t) :: bs), ⟨r, cs⟩) := domain_read hlabel hr
  have hcons : ['.'].intercalate ((c :: t) :: bs) = c :: (t ++ bs.flatMap (['.'] ++ ·)) := by
    rw [Text.intercalate_cons]
    rfl
  rw [hcons] at hps hdomain hskip ⊢
  have hbehind : Cursor.skip ⟨c :: (t ++ bs.flatMap (['.'] ++ ·)) ++ r, cs⟩
      = ([], ⟨c :: (t ++ bs.flatMap (['.'] ++ ·)) ++ r, cs⟩) :=
    skip_stop (stops_of_not_endsAtom (hc c List.mem_cons_self))
  rw [List.append_assoc, List.cons_append] at hskip ⊢
  unfold addrSpec
  simp only [hskip, hps, hbehind, hdomain, hfront]
  simp

/-! ## phrases -/

/-- a character between the words of a phrase -/
def isGap (c : Char) : Bool := isSpace c || isBreak c

theorem endsWord_of_isGap (h : isGap c = true) : endsWord c = true := by
  have hne : c ≠ '.' := by
    rintro rfl
    exact absurd h (by decide)
  rw [isGap, Bool.or_eq_true] at h
  rcases h with h | h <;> simp [endsWord, endsAtom, h, hne]

theorem phrase_gap (hc : isGap c = true) : phrase ⟨c :: r, cs⟩ = phrase ⟨r, cs⟩ := by
  rw [phrase]
  exact if_pos hc

theorem phrase_stop (hc : endsWord c = true) (hstop : Stops c) (hquote : c ≠ '"') :
    phrase ⟨c :: r, cs⟩ = ([], ⟨c :: r, cs⟩) := by
  obtain ⟨hbreak, hspace, hopen⟩ := hstop
  rw [phrase]
  simp [hbreak, hspace, hopen, hquote, hc]

theorem phrase_word (hne : a ≠ []) (ha : ∀ x ∈ a, endsWord x = false) (hr : ∀ x ∈ r.head?, endsWord x = true) :
    phrase ⟨a ++ r, cs⟩ = (a :: (phrase ⟨r, cs⟩).1, (phrase ⟨r, cs⟩).2) := by
  obtain ⟨c, t, rfl⟩ := List.exists_cons_of_ne_nil hne
  have hfront : ∀ x ∈ c :: t, (!endsWord x) = true := fun x hx => by simp [ha x hx]
  have hend : ∀ x ∈ r.head?, (!endsWord x) = false := fun x hx => by simp [hr x hx]
  have htake := takeWhile_append_of_head hfront hend
  have hdrop := dropWhile_append_of_head hfront hend
  have hc := ha c List.mem_cons_self
  have hgap : ¬isGap c = true := fun h => by simp [endsWord_of_isGap h] at hc
  have hquote : c ≠ '"' := by
    rintro rfl
    exact absurd hc (by decide)
  have hopen : c ≠ '(' := by
    rintro rfl
    exact absurd hc (by decide)
  rw [List.cons_append] at htake hdrop ⊢
  rw [phrase]
  simp only [isGap] at hgap
  simp [hgap, hquote, hopen, hc, htake, hdrop]

/-- a text without special characters is read as its words, up to a mark that ends the phrase -/
theorem phrase_plain {w : Text} (hw : ∀ x ∈ w, endsWord x = isGap x) (hc : endsWord c = true)
    (hstop : Stops c) (hquote : c ≠ '"') :
    phrase ⟨w ++ c :: r, cs⟩ = (Text.wordsBy isGap w, ⟨c :: r, cs⟩) := by
  induction hn : w.length using Nat.strong_induction_on generalizing w with
  | h n ih =>
    cases w with
    | nil => exact phrase_stop hc hstop hquote
    | cons d w =>
      by_cases hd : isGap d = true
      · rw [List.cons_append, phrase_gap hd, Text.wordsBy_cons_of_pos hd]
        refine ih w.length ?_ (fun x hx => hw x (List.mem_cons_of_mem d hx)) rfl
        rw [← hn, List.length_cons]
        omega
      -- the word that begins here, and what stands behind it
      have hcut := List.takeWhile_append_dropWhile (p := fun x => !isGap x) (l := d :: w)
      have hword : ∀ x ∈ (d :: w).takeWhile fun x => !isGap x, isGap x = false := by
        intro x hx
        simpa using List.all_eq_true.1 List.all_takeWhile x hx
      have hne : (d :: w).takeWhile (fun x => !isGap x) ≠ [] := by simp [hd]
      have hback : ∀ x ∈ ((d :: w).dropWhile fun x => !isGap x).head?, isGap x = true := by
        intro x hx
        have hnot := List.head?_dropWhile_not (fun x => !isGap x) (d :: w)
        rw [Option.mem_def.1 hx] at hnot
        simpa using hnot
      generalize (d :: w).takeWhile (fun x => !isGap x) = front at *
      generalize (d :: w).dropWhile (fun x => !isGap x) = back at *
      rw [← hcut] at hw hn ⊢
      have hplain : ∀ x ∈ front, endsWord x = false := fun x hx => by
        rw [hw x (List.mem_append_left back hx), hword x hx]
      have hends : ∀ x ∈ (back ++ c :: r).head?, endsWord x = true := by
        intro x hx
        cases back with
        | nil =>
          obtain rfl : c = x := by simpa using hx
          exact hc
        | cons e back =>
          obtain rfl : e = x := by simpa using hx
          exact endsWord_of_isGap (hback e rfl)
      have hless : back.length < n := by
        have := List.length_pos_of_ne_nil hne
        rw [← hn, List.length_append]
        omega
      rw [List.append_assoc, phrase_word hne hplain hends, Text.wordsBy_append hne hword hback,
        ih back.length hless (fun x hx => hw x (List.mem_append_right front hx)) rfl]

/-- blanks and comments in front of a phrase make no difference to it -/
theorem phrase_skip (s : Text) (cs : List Text) : phrase (Cursor.skip ⟨s, cs⟩).2 = phrase ⟨s, cs⟩ := by
  show phrase ⟨(gap s).2.2, cs ++ (gap s).2.1⟩ = _
  fun_induction gap s generalizing cs with
  | case1 => rw [List.append_nil]
  | case2 c r hc ih => rw [ih, phrase_gap (by simp [isGap, hc])]
  | case3 c r hbreak hc g ih => rw [ih, phrase_gap (by simp [isGap, hc])]
  | case4 r hbreak hspace _ g ih =>
    show phrase ⟨(gap (comment 0 r).2).2.2, cs ++ ((comment 0 r).1 :: (gap (comment 0 r).2).2.1)⟩ = _
    rw [List.append_cons, ih, phrase.eq_def ⟨'(' :: r, cs⟩]
    simp [isSpace, isBreak]
  | case5 c r => rw [List.append_nil]

/-- an escaped text between quotes, with its escapes undone -/
theorem delimited_escaped (h : '\r' ∉ s) :
    delimited '"' (s.flatMap localPart.escapeQuoted ++ '"' :: r) = (s, r) := by
  induction s with
  | nil => simp [delimited]
  | cons c s ih =>
    rw [List.mem_cons, not_or] at h
    have hrest := ih h.2
    rw [List.flatMap_cons, List.append_assoc]
    by_cases hc : c = '"' ∨ c = '\\'
    · rw [localPart.escapeQuoted, if_pos hc]
      show delimited '"' ('\\' :: c :: (s.flatMap localPart.escapeQuoted ++ '"' :: r)) = _
      rw [delimited, hrest]
    · rw [localPart.escapeQuoted, if_neg hc]
      rw [not_or] at hc
      show delimited '"' (c :: (s.flatMap localPart.escapeQuoted ++ '"' :: r)) = _
      simp [delimited, hc.1, hc.2, Ne.symm h.1, hrest]

/-- a quoted text is read as one word -/
theorem phrase_quoted (h : '\r' ∉ s) :
    phrase ⟨'"' :: (s.flatMap localPart.escapeQuoted ++ '"' :: r), cs⟩
      = (s :: (phrase ⟨r, cs⟩).1, (phrase ⟨r, cs⟩).2) := by
  rw [phrase]
  simp [isSpace, isBreak, delimited_escaped h]

/-! ## mailboxes -/

theorem routed_read (h : isAddrSpec s = true) (n : Nat) :
    routed (n + 1) ⟨s ++ ['>'], cs⟩ = (s, ⟨[], cs⟩) := by
  have hread : addrSpec ⟨s ++ ['>'], cs⟩ = (s, ⟨['>'], cs⟩) := addrSpec_read h (by simp [Closes])
  obtain ⟨c, t, rfl, hc⟩ := exists_cons_of_isAddrSpec h
  rw [routed]
  split
  · rename_i heq
    cases heq
  · rename_i heq
    cases heq
    exact absurd hc (by decide)
  · rename_i heq
    cases heq
    exact absurd hc (by decide)
  · rename_i heq
    cases heq
    exact absurd hc (by decide)
  · rw [hread]
    rfl

/-- an address in brackets behind a phrase -/
theorem address_named {words : List Text} (h : isAddrSpec s = true)
    (hphrase : phrase ⟨a ++ '<' :: (s ++ ['>']), []⟩ = (words, ⟨'<' :: (s ++ ['>']), []⟩)) (n : Nat) :
    address (n + 1) (a ++ '<' :: (s ++ ['>'])) = ([⟨[' '].intercalate words, s⟩], []) := by
  have hstop : Stops '<' := by decide
  rw [address]
  simp only [phrase_skip, hphrase, skip_stop hstop, skip_addrSpec h, routed_read h]
  simp [gap]

/-- an address that stands alone -/
theorem address_bare (h : isAddrSpec s = true) (n : Nat) : address (n + 1) s = ([⟨[], s⟩], []) := by
  have hskip : Cursor.skip ⟨s, []⟩ = ([], ⟨s, []⟩) := by
    simpa using @skip_addrSpec [] s [] h
  have hread : addrSpec ⟨s, []⟩ = (s, ⟨[], []⟩) := by
    simpa using @addrSpec_read [] s [] h (by simp [Closes])
  obtain ⟨as, bs, hs, -, -, has, -⟩ := exists_atoms h
  have hplain : ∀ x ∈ ['.'].intercalate as, endsWord x = isGap x := by
    intro x hx
    rcases Text.mem_intercalate hx with hdot | ⟨p, hp, hxp⟩
    · rw [List.mem_singleton.1 hdot]
      decide
    · have hatom := (plain_of_isAtomChar (isAtomChar_of_mem (has p hp) hxp)).1
      obtain ⟨hbreak, hspace, -⟩ := stops_of_not_endsAtom hatom
      simp [endsWord, isGap, hatom, hbreak, hspace]
  have hphrase : ∃ words r, phrase ⟨s, []⟩ = (words, ⟨'@' :: r, []⟩) := by
    rw [hs]
    exact ⟨_, _, phrase_plain hplain (by decide) (by decide) (by decide)⟩
  obtain ⟨words, r, hphrase⟩ := hphrase
  have hstop : Stops '@' := by decide
  rw [address]
  simp only [hskip, hphrase, skip_stop hstop, hread]
  simp [commentName, gap]

theorem mailboxes_eq_singleton {m : Mailbox} (hne : s ≠ []) (h : ∀ n, address (n + 1) s = ([m], [])) :
    mailboxes s = [m] := by
  obtain ⟨c, t, rfl⟩ := List.exists_cons_of_ne_nil hne
  rw [mailboxes, List.length_cons, mailboxesFrom, h]
  · cases t.length <;> simp [mailboxesFrom]
  · exact List.cons_ne_nil c t

end
end Mailroom.Address
