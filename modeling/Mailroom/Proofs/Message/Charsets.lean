import Mailroom.Message.Body
import Mailroom.Proofs.Header.Encoding
import Mailroom.Proofs.Message.Beginning

/-!
# Texts of parts and their character sets

The header of every part of a message that was read can be read again, as far as the text of the part
needs it.  The text is then that of the first character set that reads the content, in the declared order.

* `Reads`, `Refuses`       what a name of a character set does with octets;
* `FirstReads`             a text by the first name that reads the octets;
* `exists_contentType`     the media type of every part that was read can be read;
* `decodedText?_of_read`   when a part has a text, and which one;
* `decodedText?_undefined` a character set that is none hides the text.
-/

namespace Mailroom

/-! ## octets under the names of character sets -/

namespace Charset

variable {name t : Text} {names : List Text} {b : Octets} {cs : Charset}

/-- the octets are a text under the name; no octets are no text under every name -/
def Reads (name : Text) (b : Octets) (t : Text) : Prop :=
  b = [] ∧ t = [] ∨ b ≠ [] ∧ ∃ cs, named? name = some cs ∧ cs.decode b = .text t

/-- the search for a text stops at the name: it holds a NUL, or it names the set that reads nothing -/
def Refuses (name : Text) (b : Octets) : Prop :=
  isName name = false ∨ b ≠ [] ∧ named? name = some .undefined

/-- the text of some octets under the first name that reads them -/
inductive FirstReads (b : Octets) : List Text → Text → Prop
  | here {name : Text} {names : List Text} {t : Text} (h : Reads name b t) : FirstReads b (name :: names) t
  | next {name : Text} {names : List Text} {t : Text} (hname : ∀ u, ¬Reads name b u)
      (h : FirstReads b names t) : FirstReads b (name :: names) t

theorem not_refuses (hname : isName name = true) (hset : named? name ≠ some .undefined) : ¬Refuses name b := by
  rintro (h | ⟨-, h⟩)
  · exact absurd hname (by simp [h])
  · exact hset h

theorem decode_eq_refused (hb : b ≠ []) : cs.decode b = .refused ↔ cs = .undefined := by
  have hempty : ¬b.isEmpty = true := by simpa using hb
  unfold decode
  rw [if_neg hempty]
  constructor
  · intro h
    by_contra hcs
    rw [if_neg hcs] at h
    split at h <;> cases h
  · intro hcs
    rw [if_pos hcs]

/-- ISO 8859-1 reads everything -/
theorem exists_latin1 (hb : b ≠ []) : ∃ t, Charset.latin1.decode b = .text t := by
  have hgood : ∀ b : Octets, ∃ t, goodText? (pieces .latin1 b) = some t := by
    intro b
    induction b with
    | nil => exact ⟨[], rfl⟩
    | cons x b ih =>
      obtain ⟨t, ht⟩ := ih
      refine ⟨Char.ofNat x.toNat :: t, ?_⟩
      show (goodText? (pieces .latin1 b)).map _ = _
      rw [ht]
      rfl
  have hempty : ¬b.isEmpty = true := by simpa using hb
  obtain ⟨t, ht⟩ := hgood b
  unfold decode
  rw [if_neg hempty, if_neg (by decide), ht]
  exact ⟨t, rfl⟩

end Charset

namespace Message

open Charset

variable {name : Text} {names : List Text} {b : Octets}

theorem firstReading?_of_refuses (h : Refuses name b) : firstReading? (name :: names) b = none := by
  rw [firstReading?]
  rcases h with hname | ⟨hb, hnamed⟩
  · rw [hname]
    rfl
  · have hempty : ¬b.isEmpty = true := by simpa using hb
    have hrefused : Charset.undefined.decode b = .refused := (decode_eq_refused hb).2 rfl
    rw [if_neg hempty, hnamed]
    dsimp only
    rw [hrefused]
    split <;> rfl

/-- a name that does not stop the search ends it with a text, or lets the next one try -/
theorem firstReading?_cons (h : ¬Refuses name b) (names : List Text) :
    (∃ t, Reads name b t ∧ firstReading? (name :: names) b = some t) ∨
      (∀ t, ¬Reads name b t) ∧ firstReading? (name :: names) b = firstReading? names b := by
  rw [Refuses, not_or, Bool.not_eq_false, not_and] at h
  obtain ⟨hname, hset⟩ := h
  rw [firstReading?, if_neg (by simp [hname])]
  by_cases hb : b = []
  · rw [if_pos (by simp [hb])]
    exact .inl ⟨[], .inl ⟨hb, rfl⟩, rfl⟩
  rw [if_neg (by simpa using hb)]
  have hreads : ∀ t, Reads name b t ↔ ∃ cs, named? name = some cs ∧ cs.decode b = .text t := by
    intro t
    simp [Reads, hb]
  cases hnamed : named? name with
  | none =>
    refine .inr ⟨fun t ht => ?_, rfl⟩
    obtain ⟨cs, hcs, -⟩ := (hreads t).1 ht
    cases hnamed.symm.trans hcs
  | some cs =>
    dsimp only
    cases hdecode : cs.decode b with
    | text t => exact .inl ⟨t, (hreads t).2 ⟨cs, hnamed, hdecode⟩, rfl⟩
    | undecodable =>
      refine .inr ⟨fun t ht => ?_, rfl⟩
      obtain ⟨cs', hcs', htext⟩ := (hreads t).1 ht
      cases hnamed.symm.trans hcs'
      cases hdecode.symm.trans htext
    | refused =>
      rw [(decode_eq_refused hb).1 hdecode] at hnamed
      exact absurd hnamed (hset hb)

/-- ISO 8859-1 at the end reads what no other character set did -/
theorem exists_firstReads (h : ¬Refuses name b) :
    ∃ t, firstReading? [name, "utf-8", "iso-8859-1"] b = some t ∧
      FirstReads b [name, "utf-8", "iso-8859-1"] t := by
  have hutf8 : ¬Refuses "utf-8" b := not_refuses (by decide) nofun
  have hlatin : ¬Refuses "iso-8859-1" b := not_refuses (by decide) nofun
  rcases firstReading?_cons h ["utf-8", "iso-8859-1"] with ⟨t, hreads, hfirst⟩ | ⟨hnot, hfirst⟩
  · exact ⟨t, hfirst, .here hreads⟩
  rw [hfirst]
  rcases firstReading?_cons hutf8 ["iso-8859-1"] with ⟨t, hreads, hfirst⟩ | ⟨hnot', hfirst⟩
  · exact ⟨t, hfirst, .next hnot (.here hreads)⟩
  rw [hfirst]
  rcases firstReading?_cons hlatin [] with ⟨t, hreads, hfirst⟩ | ⟨hnot'', -⟩
  · exact ⟨t, hfirst, .next hnot (.next hnot' (.here hreads))⟩
  · by_cases hb : b = []
    · exact absurd (.inl ⟨hb, rfl⟩) (hnot'' [])
    · obtain ⟨t, ht⟩ := exists_latin1 hb
      exact absurd (.inr ⟨hb, .latin1, rfl, ht⟩) (hnot'' t)

/-! ## what can be read of the parts of a message -/

mutual

/-- without the line break at its end a message has the parts with the headers it had -/
theorem header_walk_of_chop {m m' : Message} (h : chop m = .ok m') :
    m'.walk.map header = m.walk.map header := by
  cases m with
  | leaf h b =>
    rw [chop] at h
    obtain ⟨type, -, h⟩ := bind_eq_ok.1 h
    split at h <;> cases h <;> rfl
  | container h ps =>
    rw [chop] at h
    obtain ⟨type, -, h⟩ := bind_eq_ok.1 h
    split at h
    · cases h
      rfl
    · obtain ⟨ps', hps, h⟩ := bind_eq_ok.1 h
      cases h
      show _ :: _ = _ :: _
      rw [header_walkAll_of_chopLast hps]
      rfl

theorem header_walkAll_of_chopLast {ps ps' : List Message} (h : chopLast ps = .ok ps') :
    (walkAll ps').map header = (walkAll ps).map header := by
  match ps with
  | [] =>
    cases h
    rfl
  | [m] =>
    obtain ⟨m', hm, h⟩ := bind_eq_ok.1 h
    cases h
    simp [walkAll, header_walk_of_chop hm]
  | m :: m₂ :: ms =>
    obtain ⟨ms', hms, h⟩ := bind_eq_ok.1 h
    cases h
    rw [walkAll, walkAll, List.map_append, List.map_append, header_walkAll_of_chopLast hms]

end

variable {n : Nat} {inDigest : Bool} {ls : List Octets} {raw : Octets} {m p : Message}

theorem mem_walkAll {ps : List Message} (h : p ∈ walkAll ps) : ∃ q ∈ ps, p ∈ q.walk := by
  induction ps with
  | nil => cases h
  | cons q ps ih =>
    rw [walkAll, List.mem_append] at h
    rcases h with h | h
    · exact ⟨q, List.mem_cons_self, h⟩
    · obtain ⟨r, hr, hp⟩ := ih h
      exact ⟨r, List.mem_cons_of_mem q hr, hp⟩

theorem exists_contentType_of_ofLines (h : ofLines n inDigest ls = .ok m) (hp : p ∈ m.walk) :
    ∃ type, p.header.contentType = .ok type := by
  induction n generalizing inDigest ls m p with
  | zero =>
    cases h
    obtain rfl : p = leaf ⟨[], inDigest⟩ [] := by simpa [walk] using hp
    cases inDigest <;> exact ⟨_, rfl⟩
  | succ n ih =>
    obtain ⟨type, htype, ⟨b, rfl⟩ | ⟨ps, rfl, hps⟩⟩ := ofLines_succ_cases h
    · obtain rfl : p = leaf (headerOf inDigest ls) b := by simpa [walk] using hp
      exact ⟨type, htype⟩
    · rw [walk, List.mem_cons] at hp
      rcases hp with rfl | hp
      · exact ⟨type, htype⟩
      obtain ⟨q, hq, hp⟩ := mem_walkAll hp
      rcases hps with ⟨-, hps⟩ | hps
      · -- a part between boundaries has the headers that it had before its last line break was taken
        obtain ⟨d, ls', q', hq', hchop⟩ := hps q hq
        have hheader : p.header ∈ q'.walk.map header := by
          rw [← header_walk_of_chop hchop]
          exact List.mem_map_of_mem hp
        obtain ⟨p', hp', hsame⟩ := List.mem_map.1 hheader
        rw [← hsame]
        exact ih hq' hp'
      · obtain ⟨ls', hq'⟩ := hps q hq
        exact ih hq' hp

/-- the media type of every part that was read can be read -/
theorem exists_contentType (h : read raw = .ok m) (hp : p ∈ m.walk) : ∃ type, p.contentType = .ok type :=
  exists_contentType_of_ofLines h hp

/-- so can its character set -/
theorem exists_charset (h : read raw = .ok m) (hp : p ∈ m.walk) : ∃ c, p.header.charset? = .ok c := by
  obtain ⟨type, htype⟩ := exists_contentType h hp
  obtain ⟨v, hv, -⟩ := bind_eq_ok.1 htype
  have hparameter : ∃ c, p.header.parameter? "Content-Type" "charset" = .ok c := by
    refine exists_bind_eq_ok hv ?_
    cases v <;> exact ⟨_, rfl⟩
  obtain ⟨c, hc⟩ := hparameter
  refine exists_bind_eq_ok hc ?_
  cases c <;> exact ⟨_, rfl⟩

/-- the content of a part that is not made of parts can be read -/
theorem exists_content (header : MessageHeader) (body : Octets) :
    ∃ b, (leaf header body).content? = .ok (some b) := by
  obtain ⟨e, he⟩ := header.exists_transferEncoding
  exact ⟨_, bind_eq_ok.2 ⟨e, he, rfl⟩⟩

/-- the character set that is tried first -/
def declared : Option Text → Text
  | some (c :: r) => c :: r
  | _ => "utf-8"

/-- a text in ISO 8859-1 that is declared as ASCII -/
def mislabelled : Octets :=
  Text.toOctets "Content-Type: text/plain; charset=us-ascii\r\n\r\ncaf" ++ [0xe9]

end Message
end Mailroom
