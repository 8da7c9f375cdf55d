import Mailroom.Filter.Description
import Mailroom.Filter.Value
import Mailroom.Proofs.Text.Pieces

/-!
# Addresses as they are shown

An address is shown alone, or in angle brackets behind a name.  Either way it can be told what the
address is, since no accepted address holds a bracket.

* `exists_atoms`, `mem_addrSpec`   the parts and the characters of accepted addresses;
* `isAddrSpec_of_resolve`   an address that a value stands for is accepted;
* `addrSpec_eq_of_describe_eq`   addresses that are shown alike are the same.
-/

namespace Mailroom.Address

theorem isAtomChar_of_isAlnum {c : Char} (h : isAlnum c = true) : isAtomChar c = true := by
  rw [isAtomChar, h, Bool.true_or]

theorem isAtom_of_isLabel {s : Text} (h : isLabel s = true) : isAtom s = true := by
  rw [isLabel, Bool.and_eq_true, Bool.and_eq_true] at h
  obtain ⟨⟨hall, hhead⟩, -⟩ := h
  rw [isAtom, Bool.and_eq_true]
  constructor
  · cases s with
    | nil => cases hhead
    | cons c r => rfl
  · refine List.all_eq_true.2 fun c hc => ?_
    have hchar := List.all_eq_true.1 hall c hc
    rw [Bool.or_eq_true, beq_iff_eq] at hchar
    rcases hchar with halnum | rfl
    · exact isAtomChar_of_isAlnum halnum
    · decide

/-- an accepted address: atoms with dots between them on both sides of the `@` -/
theorem exists_atoms {s : Text} (h : isAddrSpec s = true) :
    ∃ as bs, s = ['.'].intercalate as ++ '@' :: ['.'].intercalate bs ∧ as ≠ [] ∧ bs ≠ [] ∧
      (∀ a ∈ as, isAtom a = true) ∧ ∀ b ∈ bs, isAtom b = true := by
  unfold isAddrSpec at h
  split at h
  · cases h
  rename_i l d hcut
  rw [Bool.and_eq_true] at h
  refine ⟨Text.splitOn '.' l, Text.splitOn '.' d, ?_, Text.splitOn_ne_nil '.' l, Text.splitOn_ne_nil '.' d,
    List.all_eq_true.1 h.1, fun b hb => isAtom_of_isLabel (List.all_eq_true.1 h.2 b hb)⟩
  rw [Text.intercalate_splitOn, Text.intercalate_splitOn]
  exact Text.of_cutAt_eq_some hcut

theorem isAtomChar_of_mem {a : Text} (ha : isAtom a = true) {c : Char} (hc : c ∈ a) :
    isAtomChar c = true := by
  rw [isAtom, Bool.and_eq_true] at ha
  exact List.all_eq_true.1 ha.2 c hc

/-- an accepted address holds characters of atoms, dots and the `@` -/
theorem mem_addrSpec {s : Text} (h : isAddrSpec s = true) {c : Char} (hc : c ∈ s) :
    isAtomChar c = true ∨ c = '.' ∨ c = '@' := by
  obtain ⟨as, bs, rfl, -, -, has, hbs⟩ := exists_atoms h
  have hpart : ∀ ps : List Text, (∀ p ∈ ps, isAtom p = true) → c ∈ ['.'].intercalate ps →
      isAtomChar c = true ∨ c = '.' ∨ c = '@' := by
    intro ps hps hmem
    rcases Text.mem_intercalate hmem with hdot | ⟨p, hp, hcp⟩
    · exact .inr (.inl (List.mem_singleton.1 hdot))
    · exact .inl (isAtomChar_of_mem (hps p hp) hcp)
  rcases List.mem_append.1 hc with hc | hc
  · exact hpart as has hc
  · rcases List.mem_cons.1 hc with rfl | hc
    · exact .inr (.inr rfl)
    · exact hpart bs hbs hc

/-- no accepted address holds a character that is none of those -/
theorem not_mem_addrSpec {s : Text} (h : isAddrSpec s = true) {c : Char}
    (hc : isAtomChar c = false ∧ c ≠ '.' ∧ c ≠ '@') : c ∉ s := by
  intro hmem
  rcases mem_addrSpec h hmem with hatom | hdot | hat
  · rw [hc.1] at hatom
    cases hatom
  · exact hc.2.1 hdot
  · exact hc.2.2 hat

theorem isAddrSpec_of_parse {value : Text} {a : EmailAddress} (h : parse value = .ok a) :
    isAddrSpec a.addrSpec = true := by
  unfold parse at h
  split at h
  · split at h
    · rename_i hspec
      cases h
      exact hspec
    · cases h
  · cases h

theorem isAddrSpec_of_resolve {value : Text} {a : EmailAddress}
    (h : Filter.resolveAddress value = .address a) : isAddrSpec a.addrSpec = true := by
  unfold Filter.resolveAddress at h
  split at h
  · rename_i a' ha
    cases h
    exact isAddrSpec_of_parse ha
  · cases h

/-- addresses that are shown alike are the same -/
theorem addrSpec_eq_of_describe_eq {a b : EmailAddress} (ha : isAddrSpec a.addrSpec = true)
    (hb : isAddrSpec b.addrSpec = true)
    (h : (Target.address a).describe = (Target.address b).describe) : a.addrSpec = b.addrSpec := by
  have hopen : isAtomChar '<' = false ∧ '<' ≠ '.' ∧ '<' ≠ '@' := by decide
  have ha' := not_mem_addrSpec ha hopen
  have hb' := not_mem_addrSpec hb hopen
  -- a bracket is shown only in front of the address of a mailbox with a name
  have hnamed : ∀ d e : Text, d ++ " <".toList ++ e ++ ">".toList = (d ++ [' ']) ++ '<' :: (e ++ ['>']) := by
    intro d e
    simp
  replace h := Except.ok.inj h
  by_cases hda : a.displayName.isEmpty = true
  · by_cases hdb : b.displayName.isEmpty = true
    · rwa [if_pos hda, if_pos hdb] at h
    · rw [if_pos hda, if_neg hdb, hnamed] at h
      rw [h] at ha'
      exact absurd (List.mem_append_right _ List.mem_cons_self) ha'
  · by_cases hdb : b.displayName.isEmpty = true
    · rw [if_neg hda, if_pos hdb, hnamed] at h
      rw [← h] at hb'
      exact absurd (List.mem_append_right _ List.mem_cons_self) hb'
    · rw [if_neg hda, if_neg hdb, hnamed, hnamed] at h
      -- both addresses follow the last bracket
      have hmirror : ∀ d e : Text, (d ++ '<' :: (e ++ ['>'])).reverse
          = (e ++ ['>']).reverse ++ '<' :: d.reverse := by
        intro d e
        simp
      have hlast : ∀ s : Text, '<' ∉ s → '<' ∉ (s ++ ['>']).reverse := by
        intro s hs
        simpa using hs
      have hback := congrArg List.reverse h
      rw [hmirror, hmirror] at hback
      have hreverse := (Text.append_cons_inj (hlast _ ha') (hlast _ hb') hback).1
      exact List.append_cancel_right (List.reverse_inj.1 hreverse)

end Mailroom.Address
