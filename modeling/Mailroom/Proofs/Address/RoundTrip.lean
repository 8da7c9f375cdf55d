import Mailroom.Address.Entry
import Mailroom.Proofs.Address.Phrases
import Mailroom.Proofs.Codec.Base64

/-!
# Addresses written and read again

* `parse_eq_ok`      when the strict reader accepts a text, and what it makes of it;
* `format_eq_ok`     an accepted address as it is written;
* `parse_format`     what is written is read again: the address always, its name where it is ASCII and
  holds no white space but single spaces between words.

A name is written bare, in quotes or as an encoded word.  In each form it is a phrase before the lenient
reader, and outside of quotes it holds no comma and no parenthesis.
-/

namespace Mailroom.Address

section
variable {c : Char} {r s v : Text} {a : EmailAddress}

/-! ## the strict reader -/

theorem afterQuote?_eq_some (h : afterQuote? s = some r) : ∃ inner, s = inner ++ '"' :: r := by
  fun_induction afterQuote? s with
  | case1 => cases h
  | case2 => cases h
  | case3 d t ih =>
    obtain ⟨inner, rfl⟩ := ih h
    exact ⟨'\\' :: d :: inner, rfl⟩
  | case4 t =>
    cases h
    exact ⟨[], rfl⟩
  | case5 d t _ _ _ ih =>
    obtain ⟨inner, rfl⟩ := ih h
    exact ⟨d :: inner, rfl⟩

theorem withoutQuoted_of_not_mem (h : '"' ∉ s) : withoutQuoted s = s := by
  fun_induction withoutQuoted s <;> grind

theorem balanced_of_not_mem (hopen : '(' ∉ s) (hclose : ')' ∉ s) (depth : Nat) :
    balanced depth s = (depth == 0) := by
  fun_induction balanced depth s <;> grind

/-- a mailbox whose address holds a bracket counts as none -/
def withoutLiteral (m : Mailbox) : Mailbox := if m.address.contains '[' then ⟨[], []⟩ else m

theorem withoutLiteral_eq {m n : Mailbox} (h : isAddrSpec n.address = true) :
    withoutLiteral m = n ↔ m = n := by
  have hbracket : ¬n.address.contains '[' = true := by
    rw [List.contains_iff_mem]
    exact not_mem_addrSpec h (by decide)
  constructor
  · intro hm
    rw [withoutLiteral] at hm
    split at hm
    · rw [← hm] at h
      exact absurd h (by decide)
    · exact hm
  · rintro rfl
    exact if_neg hbracket

/-- one value is read as the mailbox of an accepted address if no comma of it stands outside of quotes -/
theorem strict_eq_singleton {w : Text} {m : Mailbox} (h : isAddrSpec m.address = true) :
    (if ((mailboxes w).map withoutLiteral).length = 0 + 1 + (withoutQuoted w).count ','
      then (mailboxes w).map withoutLiteral else [⟨[], []⟩]) = [m] ↔
      ',' ∉ withoutQuoted w ∧ mailboxes w = [m] := by
  have hempty : ([⟨[], []⟩] : List Mailbox) ≠ [m] := by
    intro heq
    rw [← (List.cons.inj heq).1] at h
    exact absurd h (by decide)
  have hmap : (mailboxes w).map withoutLiteral = [m] ↔ mailboxes w = [m] := by
    rw [List.map_eq_singleton_iff]
    simp [withoutLiteral_eq h]
  constructor
  · intro heq
    split at heq
    · rename_i hlength
      rw [heq] at hlength
      refine ⟨List.count_eq_zero.1 ?_, hmap.1 heq⟩
      simp only [List.length_singleton] at hlength
      omega
    · exact absurd heq hempty
  · rintro ⟨hcomma, hw⟩
    rw [hmap.2 hw, List.count_eq_zero.2 hcomma]
    rfl

theorem ofValues_eq_singleton {m : Mailbox} (h : isAddrSpec m.address = true) :
    ofValues [v] = [m] ↔
      balanced 0 (withoutQuoted v) = true ∧ ',' ∉ withoutQuoted v ∧ mailboxes v = [m] := by
  have hread := strict_eq_singleton (w := if balanced 0 (withoutQuoted v) then v else emptyValue) h
  unfold ofValues
  simp only [List.map_cons, List.map_nil, List.intercalate_singleton, List.foldl_cons, List.foldl_nil]
  refine hread.trans ?_
  by_cases hb : balanced 0 (withoutQuoted v) = true
  · simp [hb]
  · -- what stands for an unbalanced value holds a comma itself
    have hcomma : ',' ∈ withoutQuoted emptyValue := by
      rw [withoutQuoted_of_not_mem (by decide)]
      decide
    simp [hb, hcomma]

/-- when the strict reader accepts a text, and what it makes of it -/
theorem parse_eq_ok : parse v = .ok a ↔
    balanced 0 (withoutQuoted v) = true ∧ ',' ∉ withoutQuoted v ∧
      ∃ m, mailboxes v = [m] ∧ isAddrSpec m.address = true ∧ a = ⟨m.address, Text.trim m.name⟩ := by
  constructor
  · intro h
    unfold parse at h
    split at h
    · rename_i m hm
      split at h
      · rename_i hspec
        cases h
        obtain ⟨hbalanced, hcomma, hread⟩ := (ofValues_eq_singleton hspec).1 hm
        exact ⟨hbalanced, hcomma, m, hread, hspec, rfl⟩
      · cases h
    · cases h
  · rintro ⟨hbalanced, hcomma, m, hread, hspec, rfl⟩
    rw [parse, (ofValues_eq_singleton hspec).2 ⟨hbalanced, hcomma, hread⟩]
    exact if_pos hspec

/-! ## names in front of an address -/

theorem withoutQuoted_append (hquote : '"' ∉ s) (hescape : '\\' ∉ s) :
    withoutQuoted (s ++ r) = s ++ withoutQuoted r := by
  induction s with
  | nil => rfl
  | cons c s ih =>
    rw [List.mem_cons, not_or] at hquote hescape
    rw [List.cons_append, withoutQuoted.eq_def]
    grind

theorem afterQuote?_escaped : afterQuote? (s.flatMap localPart.escapeQuoted ++ '"' :: r) = some r := by
  induction s with
  | nil => simp [afterQuote?]
  | cons c s ih =>
    rw [List.flatMap_cons, List.append_assoc, localPart.escapeQuoted]
    by_cases hc : c = '"' ∨ c = '\\'
    · rw [if_pos hc]
      show afterQuote? ('\\' :: c :: (s.flatMap localPart.escapeQuoted ++ '"' :: r)) = _
      rw [afterQuote?, ih]
    · rw [if_neg hc]
      rw [not_or] at hc
      show afterQuote? (c :: (s.flatMap localPart.escapeQuoted ++ '"' :: r)) = _
      simp [afterQuote?, hc.1, hc.2, ih]

theorem withoutQuoted_quoted :
    withoutQuoted ('"' :: (s.flatMap localPart.escapeQuoted ++ '"' :: r)) = withoutQuoted r := by
  rw [withoutQuoted.eq_def]
  grind [afterQuote?_escaped]

theorem withoutQuoted_bracketed (h : isAddrSpec s = true) :
    withoutQuoted (' ' :: '<' :: (s ++ ['>'])) = ' ' :: '<' :: (s ++ ['>']) := by
  refine withoutQuoted_of_not_mem ?_
  simpa using not_mem_addrSpec h (c := '"') (by decide)

/-- an address in brackets behind a phrase without a comma or parenthesis outside of its quotes -/
theorem parse_bracketed {front t : Text} {words : List Text} (h : isAddrSpec s = true)
    (hphrase : phrase ⟨front ++ '<' :: (s ++ ['>']), []⟩ = (words, ⟨'<' :: (s ++ ['>']), []⟩))
    (hquoted : withoutQuoted (front ++ '<' :: (s ++ ['>'])) = t ++ '<' :: (s ++ ['>']))
    (ht : ∀ c ∈ t, c ≠ ',' ∧ c ≠ '(' ∧ c ≠ ')') :
    parse (front ++ '<' :: (s ++ ['>'])) = .ok ⟨s, Text.trim ([' '].intercalate words)⟩ := by
  have hout : ∀ c : Char, isAtomChar c = false ∧ c ≠ '.' ∧ c ≠ '@' → c ∉ t → c ≠ '<' ∧ c ≠ '>' →
      c ∉ withoutQuoted (front ++ '<' :: (s ++ ['>'])) := by
    intro c hc hct hbracket hmem
    have hspec := not_mem_addrSpec h hc
    rw [hquoted] at hmem
    simp [hct, hspec, hbracket] at hmem
  have hread := mailboxes_eq_singleton (by simp) (address_named h hphrase)
  refine parse_eq_ok.2 ⟨?_, ?_, _, hread, h, rfl⟩
  · rw [balanced_of_not_mem]
    · rfl
    · exact hout '(' (by decide) (fun hmem => (ht _ hmem).2.1 rfl) (by decide)
    · exact hout ')' (by decide) (fun hmem => (ht _ hmem).2.2 rfl) (by decide)
  · exact hout ',' (by decide) (fun hmem => (ht _ hmem).1 rfl) (by decide)

/-- a name without special characters is read as its words -/
theorem parse_unquoted {w : Text} (h : isAddrSpec s = true) (hw : ∀ c ∈ w, c ∉ nameSpecials) :
    parse (w ++ " <" ++ s ++ ">") = .ok ⟨s, Text.trim ([' '].intercalate (Text.wordsBy isGap w))⟩ := by
  have hspecial : specials ⊆ nameSpecials := by decide
  have hplain : ∀ c ∈ w ++ [' '], endsWord c = isGap c := by
    intro c hc
    rcases List.mem_append.1 hc with hc | hc
    · have hspecials : c ∉ specials := fun hmem => hw c hc (hspecial hmem)
      have hdot : c ≠ '.' := by
        rintro rfl
        exact hw _ hc (by decide)
      simp [endsWord, endsAtom, isGap, hspecials, hdot]
    · rw [List.mem_singleton.1 hc]
      decide
  have hfree : ∀ c ∈ w ++ [' '], c ∉ nameSpecials := by
    intro c hc
    rcases List.mem_append.1 hc with hc | hc
    · exact hw c hc
    · rw [List.mem_singleton.1 hc]
      decide
  have hnot : ∀ c ∈ nameSpecials, c ∉ w ++ [' '] := fun c hc hmem => hfree c hmem hc
  have htext : w ++ " <" ++ s ++ ">" = (w ++ [' ']) ++ '<' :: (s ++ ['>']) := by
    simp
  rw [htext, ← Text.wordsBy_append_singleton (s := w) (c := ' ') (by decide)]
  refine parse_bracketed (t := w ++ [' ']) h ?_ ?_ ?_
  · exact phrase_plain hplain (by decide) (by decide) (by decide)
  · rw [withoutQuoted_append (hnot _ (by decide)) (hnot _ (by decide))]
    congr 1
    refine withoutQuoted_of_not_mem ?_
    simpa using not_mem_addrSpec h (c := '"') (by decide)
  · intro c hc
    refine ⟨?_, ?_, ?_⟩ <;> rintro rfl <;> exact hfree _ hc (by decide)

/-- a name in quotes is read as it was before its characters were escaped -/
theorem parse_quoted {w : Text} (h : isAddrSpec s = true) (hw : '\r' ∉ w) :
    parse ('"' :: w.flatMap localPart.escapeQuoted ++ ['"'] ++ " <" ++ s ++ ">") = .ok ⟨s, Text.trim w⟩ := by
  have htext : '"' :: w.flatMap localPart.escapeQuoted ++ ['"'] ++ " <" ++ s ++ ">"
      = ('"' :: (w.flatMap localPart.escapeQuoted ++ ['"', ' '])) ++ '<' :: (s ++ ['>']) := by
    simp
  have hphrase : phrase ⟨'"' :: (w.flatMap localPart.escapeQuoted ++ ['"', ' ']) ++ '<' :: (s ++ ['>']), []⟩
      = ([w], ⟨'<' :: (s ++ ['>']), []⟩) := by
    rw [List.cons_append, List.append_assoc, List.cons_append, phrase_quoted hw, List.singleton_append,
      phrase_gap (by decide), phrase_stop (by decide) (by decide) (by decide)]
  have hquoted : withoutQuoted ('"' :: (w.flatMap localPart.escapeQuoted ++ ['"', ' ']) ++ '<' :: (s ++ ['>']))
      = [' '] ++ '<' :: (s ++ ['>']) := by
    rw [List.cons_append, List.append_assoc, List.cons_append, withoutQuoted_quoted]
    exact withoutQuoted_bracketed h
  rw [htext, parse_bracketed h hphrase hquoted (by simp), List.intercalate_singleton]

/-! ## encoded words -/

/-- an octet whose character puts no name into quotes -/
def IsBare (b : UInt8) : Prop := Char.ofNat b.toNat ∉ nameSpecials

instance (b : UInt8) : Decidable (IsBare b) := inferInstanceAs (Decidable (_ ∉ _))

theorem isBare_of_mem_encode {bs : Octets} {b : UInt8} (h : b ∈ Base64.encode bs) : IsBare b := by
  have hletter : ∀ n : Fin 64, IsBare (Base64.letter n) := by decide
  obtain rfl | ⟨n, hn, rfl⟩ := Base64.isDigit_of_mem_encode h
  · decide
  · exact hletter ⟨n, hn⟩

theorem isBare_of_mem_encodeWord {bs : Octets} {b : UInt8}
    (h : b ∈ QuotedPrintable.encodeWord QuotedPrintable.wordMarks bs) : IsBare b := by
  have hall : ∀ x : UInt8, (QuotedPrintable.encodeWordOctet QuotedPrintable.wordMarks x).all
      (fun b => decide (IsBare b)) = true := Text.forall_octet (by decide +kernel)
  obtain ⟨x, -, hb⟩ := List.mem_flatMap.1 h
  exact of_decide_eq_true (List.all_eq_true.1 (hall x) b hb)

theorem not_mem_of_all {front : Text} (h : front.all (fun c => !nameSpecials.contains c) = true) :
    ∀ c ∈ front, c ∉ nameSpecials := by
  simpa using h

/-- an encoded word is bare -/
theorem not_mem_of_mem_encodedWord {bs : Octets} (h : c ∈ encodedWord bs) : c ∉ nameSpecials := by
  have hpieces : ∀ {front : Text} {l : Octets}, (∀ c ∈ front, c ∉ nameSpecials) → (∀ b ∈ l, IsBare b) →
      c ∈ front ++ Text.ofOctets l ++ "?=" → c ∉ nameSpecials := by
    intro front l hfront hl hc
    have hend : ∀ c ∈ "?=".toList, c ∉ nameSpecials := not_mem_of_all (by decide)
    simp only [List.mem_append] at hc
    rcases hc with (hc | hc) | hc
    · exact hfront c hc
    · obtain ⟨b, hb, rfl⟩ := List.mem_map.1 hc
      exact hl b hb
    · exact hend c hc
  simp only [encodedWord] at h
  split at h
  · exact hpieces (not_mem_of_all (by decide)) (fun b => isBare_of_mem_encode) h
  · exact hpieces (not_mem_of_all (by decide)) (fun b => isBare_of_mem_encodeWord) h

/-! ## written and read -/

/-- words with single spaces between them, and no other white space -/
def SingleSpaced (s : Text) : Prop := [' '].intercalate (Text.words s) = s

instance (s : Text) : Decidable (SingleSpaced s) := inferInstanceAs (Decidable (_ = _))

theorem trim_of_singleSpaced (h : SingleSpaced s) : Text.trim s = s := by
  rw [← h]
  refine Text.trimWhere_intercalate [' '] fun w hw => ?_
  exact ⟨(Text.of_mem_wordsBy hw).1, Text.trimWhere_eq_self (Text.of_mem_wordsBy hw).2⟩

/-- its words are also what stands between its spaces and tabs -/
theorem intercalate_wordsBy_of_singleSpaced (h : SingleSpaced s) :
    [' '].intercalate (Text.wordsBy isGap s) = s := by
  have hsame : ∀ c ∈ s, isGap c = Text.isBlank c := by
    intro c hc
    rw [← h] at hc
    rcases Text.mem_intercalate hc with hspace | ⟨w, hw, hcw⟩
    · rw [List.mem_singleton.1 hspace]
      decide
    · have hblank := (Text.of_mem_wordsBy hw).2 c hcw
      rw [hblank, ← Bool.not_eq_true]
      intro hgap
      simp only [isGap, isSpace, isBreak, Bool.or_eq_true, beq_iff_eq] at hgap
      rcases hgap with (rfl | rfl) | (rfl | rfl) <;> exact absurd hblank (by decide)
  rw [Text.wordsBy_congr hsame]
  exact h

/-- an accepted address as it is written -/
theorem format_eq_ok (h : isAddrSpec a.addrSpec = true) :
    format a = .ok (if a.displayName = [] then a.addrSpec
      else formatName a.displayName ++ " <" ++ a.addrSpec ++ ">") := by
  have hascii : a.addrSpec.findIdx? (fun c => !Text.isAscii c) = none := by
    rw [List.findIdx?_eq_none_iff]
    intro c hc
    rw [Bool.not_eq_false']
    rcases mem_addrSpec h hc with hatom | rfl | rfl
    · exact isAscii_of_isAtomChar hatom
    · decide
    · decide
  unfold format
  rw [hascii]
  simp only [List.isEmpty_iff]
  split <;> rfl

theorem exists_format (h : isAddrSpec a.addrSpec = true) : ∃ s, format a = .ok s :=
  ⟨_, format_eq_ok h⟩

/-- a name in front of an address is read again -/
theorem parse_named {name : Text} (h : isAddrSpec s = true) (hname : '\r' ∉ name) :
    ∃ n, parse (formatName name ++ " <" ++ s ++ ">") = .ok ⟨s, n⟩ ∧
      (name.all Text.isAscii = true → SingleSpaced name → n = name) := by
  unfold formatName
  by_cases hascii : name.all Text.isAscii = true
  · rw [if_pos hascii]
    by_cases hspecial : name.any nameSpecials.contains = true
    · simp only [if_pos hspecial]
      exact ⟨_, parse_quoted h hname, fun _ => trim_of_singleSpaced⟩
    · -- nothing is escaped in a name without special characters
      have hfree : ∀ c ∈ name, c ∉ nameSpecials := by simpa using hspecial
      have hplain : (name.flatMap fun c => if c = '"' ∨ c = '\\' then ['\\', c] else [c]) = name := by
        rw [List.flatMap_congr (g := fun c => [c])]
        · simp
        · intro c hc
          refine if_neg ?_
          rintro (rfl | rfl) <;> exact hfree _ hc (by decide)
      simp only [if_neg hspecial, hplain]
      refine ⟨_, parse_unquoted h hfree, fun _ hspaced => ?_⟩
      rw [intercalate_wordsBy_of_singleSpaced hspaced, trim_of_singleSpaced hspaced]
  · rw [if_neg hascii]
    exact ⟨_, parse_unquoted h fun c => not_mem_of_mem_encodedWord, fun hc => absurd hc hascii⟩

/-- an address that stands alone is read as it is -/
theorem parse_addrSpec (h : isAddrSpec s = true) : parse s = .ok ⟨s, []⟩ := by
  have hout : ∀ c : Char, isAtomChar c = false ∧ c ≠ '.' ∧ c ≠ '@' → c ∉ s := fun c => not_mem_addrSpec h
  have hquoted : withoutQuoted s = s := withoutQuoted_of_not_mem (hout _ (by decide))
  obtain ⟨c, t, hs, -⟩ := exists_cons_of_isAddrSpec h
  have hne : s ≠ [] := by
    rw [hs]
    exact List.cons_ne_nil c t
  refine parse_eq_ok.2 ⟨?_, ?_, _, mailboxes_eq_singleton hne (address_bare h), h, rfl⟩
  · rw [hquoted, balanced_of_not_mem (hout _ (by decide)) (hout _ (by decide))]
    rfl
  · rw [hquoted]
    exact hout _ (by decide)

/-- what is written is read again: the address always, its name where it is ASCII and single-spaced -/
theorem parse_format (a : EmailAddress) (h : isAddrSpec a.addrSpec = true) (hname : '\r' ∉ a.displayName) :
    ∃ s b, format a = .ok s ∧ parse s = .ok b ∧ b.addrSpec = a.addrSpec ∧
      (a.displayName.all Text.isAscii = true → SingleSpaced a.displayName → b = a) := by
  rw [format_eq_ok h]
  by_cases hempty : a.displayName = []
  · rw [if_pos hempty]
    refine ⟨_, _, rfl, parse_addrSpec h, rfl, fun _ _ => ?_⟩
    rw [← hempty]
  · rw [if_neg hempty]
    obtain ⟨n, hread, hsame⟩ := parse_named h hname
    refine ⟨_, _, rfl, hread, rfl, fun hascii hspaced => ?_⟩
    rw [hsame hascii hspaced]

/-- a name with quotes, a comma and parentheses -/
theorem parse_format_comma : ∃ s, format ⟨"b.smith+x@y-1.org", "Smith, \"Bob\" (b@y)"⟩ = .ok s ∧
    parse s = .ok ⟨"b.smith+x@y-1.org", "Smith, \"Bob\" (b@y)"⟩ := by
  obtain ⟨s, b, hformat, hparse, -, hsame⟩ :=
    parse_format ⟨"b.smith+x@y-1.org", "Smith, \"Bob\" (b@y)"⟩ (by decide) (by decide)
  refine ⟨s, hformat, ?_⟩
  rw [hparse, hsame (by decide) (by decide)]

end
end Mailroom.Address
