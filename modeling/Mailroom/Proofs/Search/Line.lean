import Mailroom.Proofs.Address.Shown
import Mailroom.Proofs.Search.Agreement

/-!
# Search programs as one line of a command

A search program is sent as part of one line of the mail protocol, so that nothing in it may end the
line.  It is put together from atoms and from quoted texts; the quoted texts are the patterns and the
addresses of the filter, with a backslash in front of quotes and backslashes.

* `Piece`             atoms and quoted texts, put behind each other and between parentheses;
* `IsAtom`            what the mail protocol takes as an atom;
* `scan_written`      a written piece is scanned as its words;
* `LaidOut`           a program that is a written piece, whose quoted texts are given;
* `laidOut_criteria`  the program of a tree is laid out, and quotes the texts of its leaves;
* `criteria_on_one_line`   the program of an accepted filter is one line of one command, unless a pattern
  itself breaks the line.
-/

namespace Mailroom

namespace Search

/-! ## pieces -/

/-- a part of a search program -/
inductive Piece where
  | atom (s : Text)
  | quoted (s : Text)
  | pair (a b : Piece)
  | group (p : Piece)
deriving DecidableEq, Repr

/-- the visible characters of ASCII that may not stand in an atom -/
def atomSpecials : Text := ['(', ')', '\x7b', '%', '*', '"', '\\', ']']

/-- a character that the mail protocol allows in an atom -/
def isAtomic (c : Char) : Bool :=
  0x21 ≤ c.toNat && c.toNat ≤ 0x7e && !atomSpecials.contains c

/-- an atom of the mail protocol -/
def IsAtom (s : Text) : Prop := s ≠ [] ∧ s.all isAtomic = true

instance (s : Text) : Decidable (IsAtom s) :=
  inferInstanceAs (Decidable (s ≠ [] ∧ s.all isAtomic = true))

namespace Piece

/-- the text of a piece -/
def written : Piece → Text
  | atom s => s
  | quoted s => Criteria.quote s
  | pair a b => a.written ++ ' ' :: b.written
  | group p => '(' :: p.written ++ [')']

/-- the words of a piece -/
def words : Piece → List Word
  | atom s => [.atom s]
  | quoted s => [.quoted s]
  | pair a b => a.words ++ b.words
  | group p => .opening :: p.words ++ [.closing]

/-- the atoms of a piece -/
def atoms : Piece → List Text
  | atom s => [s]
  | quoted _ => []
  | pair a b => a.atoms ++ b.atoms
  | group p => p.atoms

/-- the texts that a piece quotes -/
def strings : Piece → List Text
  | atom _ => []
  | quoted s => [s]
  | pair a b => a.strings ++ b.strings
  | group p => p.strings

end Piece

theorem isPlain_of_isAtomic {c : Char} (h : isAtomic c = true) : isPlain c = true := by
  rw [isPlain_iff]
  refine ⟨?_, ?_, ?_, ?_⟩ <;> (rintro rfl; exact absurd h (by decide))

theorem scan_written {p : Piece} (h : ∀ a ∈ p.atoms, IsAtom a) {rest : Text} (hr : Delimited rest) :
    scan .between (p.written ++ rest) = (scan .between rest).map (p.words ++ ·) := by
  induction p generalizing rest with
  | atom s =>
    obtain ⟨hne, hs⟩ := h s List.mem_cons_self
    refine scan_atom hne ?_ hr
    rw [List.all_eq_true] at hs ⊢
    exact fun c hc => isPlain_of_isAtomic (hs c hc)
  | quoted s => exact scan_quote s rest
  | pair a b iha ihb =>
    rw [Piece.atoms, List.forall_mem_append] at h
    have hb := ihb h.2 hr
    have ha := iha h.1 (delimited_blank (b.written ++ rest))
    rw [Piece.written, List.append_assoc, List.cons_append, ha]
    show (scan .between (b.written ++ rest)).map _ = _
    rw [hb, Option.map_map]
    congr 1
    funext ws
    exact (List.append_assoc a.words b.words ws).symm
  | group p ih =>
    have hp := ih h (delimited_closing rest)
    show (scan .between (p.written ++ [')'] ++ rest)).map _ = _
    rw [List.append_assoc, List.singleton_append, hp]
    show (((scan .between rest).map _).map _).map _ = _
    rw [Option.map_map, Option.map_map]
    congr 1
    funext ws
    simp [Piece.words]

/-- a character that is neither of an atom nor put between pieces comes from a quoted text -/
theorem mem_written_iff {p : Piece} (h : ∀ a ∈ p.atoms, IsAtom a) {c : Char}
    (hc : isAtomic c = false ∧ c ∉ [' ', '(', ')', '"', '\\']) :
    c ∈ p.written ↔ ∃ s ∈ p.strings, c ∈ s := by
  obtain ⟨hatomic, hmarks⟩ := hc
  simp only [List.mem_cons, List.not_mem_nil, or_false, not_or] at hmarks
  obtain ⟨hblank, hopen, hclose, hquote, hslash⟩ := hmarks
  induction p with
  | atom s =>
    obtain ⟨-, hs⟩ := h s List.mem_cons_self
    have hnot : c ∉ s := by
      intro hcs
      rw [List.all_eq_true.1 hs c hcs] at hatomic
      cases hatomic
    simp [Piece.written, Piece.strings, hnot]
  | quoted s =>
    have hescape : ∀ d : Char, c ∈ (if d = '"' ∨ d = '\\' then ['\\', d] else [d]) ↔ c = d := by
      intro d
      split <;> simp [hslash]
    simp [Piece.written, Piece.strings, Criteria.quote, hescape, hquote]
  | pair a b iha ihb =>
    rw [Piece.atoms, List.forall_mem_append] at h
    have ha := iha h.1
    have hb := ihb h.2
    simp only [Piece.written, Piece.strings, List.mem_append, List.mem_cons, ha, hb, hblank, false_or,
      or_and_right, exists_or]
  | group p ih =>
    have hp := ih h
    simp [Piece.written, Piece.strings, hp, hopen, hclose]

/-! ## programs that are laid out -/

/-- the program is a written piece whose atoms are atoms of the mail protocol and which quotes the
texts -/
def LaidOut (program : Text) (texts : List Text) : Prop :=
  ∃ p : Piece, program = p.written ∧ (∀ a ∈ p.atoms, IsAtom a) ∧ p.strings = texts

section
variable {m n w : Text} {xs ys : List Text}

theorem laidOut_atom (h : IsAtom w) : LaidOut w [] :=
  ⟨.atom w, rfl, fun a ha => by rwa [List.mem_singleton.1 ha], rfl⟩

theorem laidOut_quote (s : Text) : LaidOut (Criteria.quote s) [s] :=
  ⟨.quoted s, rfl, nofun, rfl⟩

theorem LaidOut.pair (hm : LaidOut m xs) (hn : LaidOut n ys) : LaidOut (m ++ ' ' :: n) (xs ++ ys) := by
  obtain ⟨p, rfl, hp, rfl⟩ := hm
  obtain ⟨q, rfl, hq, rfl⟩ := hn
  exact ⟨.pair p q, rfl, List.forall_mem_append.2 ⟨hp, hq⟩, rfl⟩

theorem LaidOut.group (hm : LaidOut m xs) : LaidOut ('(' :: m ++ [')']) xs := by
  obtain ⟨p, rfl, hp, rfl⟩ := hm
  exact ⟨.group p, rfl, hp, rfl⟩

theorem LaidOut.key (hm : LaidOut m xs) (hw : IsAtom w) : LaidOut ("(" ++ w ++ " " ++ m ++ ")") xs := by
  have h := ((laidOut_atom hw).pair hm).group
  simpa using h

theorem LaidOut.conj (hm : LaidOut m xs) (hn : LaidOut n ys) :
    LaidOut ("(" ++ m ++ " " ++ n ++ ")") (xs ++ ys) := by
  have h := (hm.pair hn).group
  simpa using h

theorem LaidOut.disj (hm : LaidOut m xs) (hn : LaidOut n ys) :
    LaidOut ("(OR " ++ m ++ " " ++ n ++ ")") (xs ++ ys) := by
  have hor : IsAtom "OR" := by decide
  have h := ((laidOut_atom hor).pair (hm.pair hn)).group
  simpa using h

theorem LaidOut.neg (hm : LaidOut m xs) : LaidOut ("(NOT " ++ m ++ ")") xs := by
  have hnot : IsAtom "NOT" := by decide
  have h := hm.key hnot
  simpa using h

end

/-! ## atoms of programs -/

theorem isAtomic_of_isAlnum {c : Char} (h : Address.isAlnum c = true) : isAtomic c = true := by
  have hall : ∀ n : Fin 128, Address.isAlnum (Char.ofNat n.val) = true →
      isAtomic (Char.ofNat n.val) = true := by decide
  have hrange : c.toNat < 128 := by
    rw [Address.isAlnum, Text.isAsciiLetter, Text.asciiDigit?] at h
    simp only [Bool.or_eq_true, Bool.and_eq_true, decide_eq_true_eq] at h
    rcases h with (h | h) | h
    · have hz : c.toNat ≤ 'z'.toNat := h.2
      exact Nat.lt_of_le_of_lt hz (by decide)
    · have hz : c.toNat ≤ 'Z'.toNat := h.2
      exact Nat.lt_of_le_of_lt hz (by decide)
    · by_cases hdigit : '0' ≤ c ∧ c ≤ '9'
      · have hz : c.toNat ≤ '9'.toNat := hdigit.2
        exact Nat.lt_of_le_of_lt hz (by decide)
      · rw [if_neg hdigit] at h
        cases h
  have hc := hall ⟨c.toNat, hrange⟩
  rw [Char.ofNat_toNat] at hc
  exact hc h

theorem isAlnum_of_isDigit {c : Char} (h : c.isDigit = true) : Address.isAlnum c = true := by
  have hrange : '0' ≤ c ∧ c ≤ '9' := by
    rw [Char.isDigit, Bool.and_eq_true, decide_eq_true_eq, decide_eq_true_eq] at h
    exact h
  rw [Address.isAlnum, Text.asciiDigit?, if_pos hrange]
  simp

theorem all_isAtomic_decimal (n : Nat) : (Text.decimal n).all isAtomic = true := by
  refine List.all_eq_true.2 fun c hc => ?_
  exact isAtomic_of_isAlnum (isAlnum_of_isDigit (Text.isDigit_of_mem_decimal hc))

theorem isAtom_decimal (n : Nat) : IsAtom (Text.decimal n) :=
  ⟨Text.decimal_ne_nil n, all_isAtomic_decimal n⟩

theorem isAtom_short {d : Date} (hd : d.Exists) (hy : 1 ≤ d.year) : IsAtom d.short := by
  have hall : ∀ i : Fin 12, (Date.monthName (i.val + 1)).all isAtomic = true := by decide
  have hmonth := hall ⟨d.month - 1, by have := hd.2.1; omega⟩
  rw [show d.month - 1 + 1 = d.month from Nat.sub_add_cancel hd.1] at hmonth
  unfold Date.short
  rw [Text.decimalInt_of_nonneg (by omega)]
  refine ⟨by simp, ?_⟩
  rw [List.all_append, List.all_append, List.all_append, List.all_append, hmonth,
    all_isAtomic_decimal, all_isAtomic_decimal]
  rfl

theorem isAtom_of_isKeyword {name : Text} (h : Filter.isKeyword name = true) : IsAtom name := by
  rw [Filter.isKeyword, Bool.and_eq_true] at h
  have hmarks : ∀ c ∈ Filter.keywordMarks, isAtomic c = true := List.all_eq_true.1 (by decide)
  refine ⟨by simpa using h.1, List.all_eq_true.2 fun c hc => ?_⟩
  have hmark := List.all_eq_true.1 h.2 c hc
  rw [Bool.or_eq_true, List.contains_iff_mem] at hmark
  exact hmark.elim isAtomic_of_isAlnum (hmarks c)

/-! ## programs of trees -/

end Search

/-- the text that stands for a target in a search program -/
def Target.texts : Target → List Text
  | address a => [a.addrSpec]
  | personal name => [name]
  | stray _ => []

/-- the texts of a leaf that its search program quotes -/
def Leaf.texts : Leaf → List Text
  | body p | subject p => [p]
  | sender t | recipient _ t => t.texts
  | _ => []

namespace Search

variable {zone : Zone}

theorem texts_of_key {t : Target} {s : Text} (h : Criteria.key t = .ok s) : t.texts = [s] := by
  cases t with
  | address a | personal name =>
    cases h
    rfl
  | stray v => cases h

theorem laidOut_date {cmp : Option Comparison} {m : Moment} {c : Text} (which : Dated)
    (h : Criteria.date zone which.keys cmp m = .ok c) : LaidOut c [] := by
  obtain ⟨d, hday, h⟩ := bind_eq_ok.1 h
  obtain ⟨s, hs, hd⟩ := bind_eq_ok.1 hday
  cases hd
  obtain ⟨hexists, hyear, -, -⟩ := Zone.reading_localize (orFault_eq_ok.1 hs)
  have hword : ∀ order, IsAtom (which.word order) := by
    intro order
    cases which <;> cases order <;> decide
  have hkey : ∀ order, LaidOut ("(" ++ which.word order ++ " " ++ s.reading.date.short ++ ")") [] :=
    fun order => (laidOut_atom (isAtom_short hexists hyear)).key (hword order)
  match cmp with
  | none => cases h
  | some .equal =>
    cases h
    exact hkey .on
  | some .atLeast =>
    cases h
    exact hkey .since
  | some .atMost =>
    cases h
    have h := (hkey .before).disj (hkey .on)
    simpa [Dated.word] using h

theorem laidOut_flag {name : Text} (isSet : Bool)
    (h : name = seenFlag ∨ name = flaggedFlag ∨ Filter.isKeyword name) :
    LaidOut (Criteria.flag name isSet) [] := by
  have hplain : ∀ w : Text, IsAtom w → LaidOut ('(' :: w ++ [')']) [] :=
    fun w hw => (laidOut_atom hw).group
  unfold Criteria.flag
  by_cases hs : name = seenFlag
  · rw [if_pos hs]
    cases isSet with
    | true => exact hplain "SEEN" (by decide)
    | false => exact hplain "UNSEEN" (by decide)
  rw [if_neg hs]
  by_cases hf : name = flaggedFlag
  · rw [if_pos hf]
    cases isSet with
    | true => exact hplain "FLAGGED" (by decide)
    | false => exact hplain "UNFLAGGED" (by decide)
  rw [if_neg hf]
  have hname := laidOut_atom (isAtom_of_isKeyword ((h.resolve_left hs).resolve_left hf))
  cases isSet with
  | true => exact hname.key (w := "KEYWORD") (by decide)
  | false => exact hname.key (w := "UNKEYWORD") (by decide)

theorem laidOut_leaf {l : Leaf} {c : Text} (h : Criteria.leaf zone l = .ok c) (hl : l.Searchable) :
    LaidOut c l.texts := by
  cases l with
  | body p =>
    cases h
    exact (laidOut_quote p).key (w := "BODY") (by decide)
  | subject p =>
    cases h
    exact (laidOut_quote p).key (w := "SUBJECT") (by decide)
  | number n =>
    cases h
    by_cases hn : 0 < n
    · rw [if_pos hn, Text.decimalInt_of_nonneg (by omega)]
      exact (laidOut_atom (isAtom_decimal n.toNat)).group
    · rw [if_neg hn]
      exact (laidOut_atom (w := "ALL") (by decide)).neg
  | received cmp m => exact laidOut_date .received h
  | sent cmp m => exact laidOut_date .sent h
  | sender t =>
    obtain ⟨s, hs, hc⟩ := bind_eq_ok.1 h
    cases hc
    rw [Leaf.texts, texts_of_key hs]
    exact (laidOut_quote s).key (w := "FROM") (by decide)
  | recipient kind t =>
    obtain ⟨s, hs, hc⟩ := bind_eq_ok.1 h
    cases hc
    rw [Leaf.texts, texts_of_key hs]
    have hkind : IsAtom (Criteria.recipientKey kind) := by cases kind <;> decide
    exact (laidOut_quote s).key hkind
  | size cmp n =>
    have hdecimal := laidOut_atom (isAtom_decimal n.toNat)
    match cmp with
    | some .atLeast =>
      cases h
      rw [Text.decimalInt_of_nonneg hl]
      show LaidOut _ []
      have h := ((laidOut_atom (w := "SMALLER") (by decide)).pair hdecimal).neg
      simpa using h
    | some .atMost =>
      cases h
      rw [Text.decimalInt_of_nonneg hl]
      show LaidOut _ []
      have h := ((laidOut_atom (w := "LARGER") (by decide)).pair hdecimal).neg
      simpa using h
    | some .equal | none => cases h
  | flag name isSet =>
    cases h
    exact laidOut_flag isSet hl

theorem laidOut_criteria {t : Tree} {c : Text} (h : t.criteria zone = .ok c)
    (ht : ∀ l ∈ t.leaves, l.Searchable) : LaidOut c (t.leaves.flatMap Leaf.texts) := by
  induction t generalizing c with
  | leaf l =>
    rw [Tree.leaves, List.flatMap_singleton]
    exact laidOut_leaf h (ht l List.mem_cons_self)
  | neg l =>
    obtain ⟨m, hm, hc⟩ := bind_eq_ok.1 h
    cases hc
    rw [Tree.leaves, List.flatMap_singleton]
    exact (laidOut_leaf hm (ht l List.mem_cons_self)).neg
  | conj a b iha ihb =>
    obtain ⟨m, hm, h⟩ := bind_eq_ok.1 h
    obtain ⟨n, hn, hc⟩ := bind_eq_ok.1 h
    cases hc
    rw [Tree.leaves, List.forall_mem_append] at ht
    rw [Tree.leaves, List.flatMap_append]
    exact (iha hm ht.1).conj (ihb hn ht.2)
  | disj a b iha ihb =>
    obtain ⟨m, hm, h⟩ := bind_eq_ok.1 h
    obtain ⟨n, hn, hc⟩ := bind_eq_ok.1 h
    cases hc
    rw [Tree.leaves, List.forall_mem_append] at ht
    rw [Tree.leaves, List.flatMap_append]
    exact (iha hm ht.1).disj (ihb hn ht.2)
  | stray v => cases h

/-! ## one line -/

/-- the characters that no line of the mail protocol may hold -/
def lineBreaks : Text := ['\r', '\n', '\x00']

/-- no address of an accepted filter breaks the line, so that only patterns can -/
theorem breaks_leaf_iff {l : Leaf} {c : Char} (hc : c ∈ lineBreaks) (hr : l.Resolved zone)
    (hp : l.isPersonal = false) :
    (∃ s ∈ l.texts, c ∈ s) ↔ ∃ p, (l = .body p ∨ l = .subject p) ∧ c ∈ p := by
  have hmarks : ∀ c ∈ lineBreaks, Address.isAtomChar c = false ∧ c ≠ '.' ∧ c ≠ '@' := by
    simp only [lineBreaks, List.mem_cons, List.not_mem_nil, or_false]
    rintro c (rfl | rfl | rfl) <;> decide
  have htarget : ∀ t : Target, (∃ value, t = Filter.resolveAddress value) →
      (∀ name, t ≠ .personal name) → ¬∃ s ∈ t.texts, c ∈ s := by
    rintro t ⟨value, ht⟩ hname ⟨s, hs, hcs⟩
    cases t with
    | address a =>
      rw [List.mem_singleton.1 hs] at hcs
      exact Address.not_mem_addrSpec (Address.isAddrSpec_of_resolve ht.symm) (hmarks c hc) hcs
    | personal name => exact hname name rfl
    | stray v => cases hs
  cases l with
  | body p | subject p => simp [Leaf.texts]
  | sender t | recipient kind t =>
    have hnone := htarget t hr (by rintro name rfl; cases hp)
    simpa [Leaf.texts] using hnone
  | _ => simp [Leaf.texts]

/-- **One line, one command.**  The search program of an accepted filter that asks for no name is put
together from atoms of the mail protocol and from quoted texts, which are the patterns and addresses of
the filter; a server scans these words and reads the key of the filter, and nothing else.  The program
breaks the line exactly if a pattern does. -/
theorem criteria_on_one_line (zone : Zone) (e : Text) (t : Tree) (ht : Filter.compile zone e = .ok t)
    (hp : t.hasPersonal = false) :
    ∃ program key piece, t.criteria zone = .ok program ∧ Key.ofTree zone t = .ok key ∧
      read? program = some key ∧ program = Piece.written piece ∧
      scan .between program = some piece.words ∧ (∀ a ∈ piece.atoms, IsAtom a) ∧
      piece.strings = t.leaves.flatMap Leaf.texts ∧
      ∀ c ∈ lineBreaks, c ∈ program ↔
        ∃ l ∈ t.leaves, ∃ p, (l = .body p ∨ l = .subject p) ∧ c ∈ p := by
  obtain ⟨⟨program, hprogram⟩, hs⟩ := written_of_compile ht
  obtain ⟨key, hkey, hread⟩ := read?_criteria hprogram hs
  obtain ⟨piece, hpiece, hatoms, hstrings⟩ := laidOut_criteria hprogram hs
  have hscan : scan .between program = some piece.words := by
    have hend : Delimited [] := nofun
    have h := scan_written hatoms hend
    rw [List.append_nil] at h
    rw [hpiece, h]
    show some (piece.words ++ []) = _
    rw [List.append_nil]
  refine ⟨program, key, piece, hprogram, hkey, hread, hpiece, hscan, hatoms, hstrings, ?_⟩
  intro c hc
  have hmarks : ∀ c ∈ lineBreaks, isAtomic c = false ∧ c ∉ [' ', '(', ')', '"', '\\'] := by
    simp [lineBreaks, isAtomic, atomSpecials]
  have hpersonal : ∀ l ∈ t.leaves, l.isPersonal = false := by
    simpa [Tree.hasPersonal] using hp
  have hresolved := Filter.resolved_of_compile ht
  rw [hpiece, mem_written_iff hatoms (hmarks c hc), hstrings]
  constructor
  · rintro ⟨s, hsl, hcs⟩
    obtain ⟨l, hl, hsl⟩ := List.mem_flatMap.1 hsl
    exact ⟨l, hl, (breaks_leaf_iff hc (hresolved l hl) (hpersonal l hl)).1 ⟨s, hsl, hcs⟩⟩
  · rintro ⟨l, hl, hbreaks⟩
    obtain ⟨s, hsl, hcs⟩ := (breaks_leaf_iff hc (hresolved l hl) (hpersonal l hl)).2 hbreaks
    exact ⟨s, List.mem_flatMap.2 ⟨l, hl, hsl⟩, hcs⟩

/-- a filter with quotes in a pattern and an address -/
def quotingFilter : Tree :=
  .conj (.leaf (.body "say \"hi\"")) (.leaf (.sender (.address ⟨"ann@x.org", "Ann"⟩)))

theorem criteria_on_one_line_quoting :
    Filter.compile .utc "body:say \"hi\"+from:Ann <ann@x.org>" = .ok quotingFilter ∧
    quotingFilter.hasPersonal = false ∧
    ∃ program key piece, quotingFilter.criteria .utc = .ok program ∧
      Key.ofTree .utc quotingFilter = .ok key ∧ read? program = some key ∧
      program = Piece.written piece ∧ scan .between program = some piece.words ∧
      (∀ a ∈ piece.atoms, IsAtom a) ∧ piece.strings = quotingFilter.leaves.flatMap Leaf.texts ∧
      ∀ c ∈ lineBreaks, c ∈ program ↔
        ∃ l ∈ quotingFilter.leaves, ∃ p, (l = .body p ∨ l = .subject p) ∧ c ∈ p := by
  have h : Filter.compile .utc "body:say \"hi\"+from:Ann <ann@x.org>" = .ok quotingFilter := by
    decide +kernel
  exact ⟨h, rfl, criteria_on_one_line .utc _ quotingFilter h rfl⟩

/-- a pattern with line ends is sent as it is, and its second line is a command of its own -/
theorem criteria_second_command :
    Filter.compile .utc "subject:x\r\nA EXPUNGE\r\n" = .ok (.leaf (.subject "x\r\nA EXPUNGE\r\n")) ∧
    (Tree.leaf (.subject "x\r\nA EXPUNGE\r\n")).hasPersonal = false ∧
    (Tree.leaf (.subject "x\r\nA EXPUNGE\r\n")).criteria .utc
      = .ok "(SUBJECT \"x\r\nA EXPUNGE\r\n\")".toList ∧
    '\r' ∈ "(SUBJECT \"x\r\nA EXPUNGE\r\n\")".toList ∧
    Text.splitOn '\n' "(SUBJECT \"x\r\nA EXPUNGE\r\n\")"
      = ["(SUBJECT \"x\r".toList, "A EXPUNGE\r".toList, "\")".toList] := by
  decide

end Search
end Mailroom
