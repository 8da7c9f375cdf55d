import Mailroom.Filter.Evaluate
import Mailroom.Proofs.Address.Shown
import Mailroom.Proofs.Filter.Terms
import Mailroom.Proofs.Time.Spoken

/-!
# The words of leaves

A leaf is described by some words, a text in quotes, and for some leaves more words behind it.  The
text is quoted as it was typed, so that where it ends can be told only if it does not look like the end
of a term.

* `Wording`, `Worded`    the words of a leaf in front of what it quotes; they tell the kind of the leaf;
* `Follows`              what may stand behind a term: nothing, `)`, ` and ` or ` or `;
* `Contained`            a text that has no quote in front of such an end;
* `Leaf.Clear`           a leaf that its description tells;
* `quoted_unique`        where such a leaf stands, its text and its end can be told;
* `holds_eq_of_quoted_eq`   such leaves with the same words and the same text say the same.
-/

namespace Mailroom

/-! ## the words of leaves -/

/-- what the words in front of the quoted text tell of a leaf -/
inductive Wording where
  | subject
  | body
  | sender
  | number
  | received (cmp : Comparison)
  | sent (cmp : Comparison)
  | recipient (kind : RecipientKind)
  | atLeast
  | atMost
  | flag
deriving DecidableEq, Repr

namespace Wording

/-- the words -/
def text : Wording → Text
  | subject => "subject contains "
  | body => "body contains "
  | sender => "sender is "
  | number => "message number is "
  | received cmp => "received" ++ cmp.words
  | sent cmp => "sent" ++ cmp.words
  | recipient kind => kind.words
  | atLeast => "size greater than "
  | atMost => "size less than "
  | flag => "flag "

def all : List Wording :=
  [subject, body, sender, number, received .equal, received .atMost, received .atLeast,
   sent .equal, sent .atMost, sent .atLeast, recipient .to, recipient .cc, recipient .bcc,
   atLeast, atMost, flag]

theorem mem_all (w : Wording) : w ∈ all := by
  cases w with
  | received cmp | sent cmp => cases cmp <;> decide
  | recipient kind => cases kind <;> decide
  | _ => decide

theorem not_mem_text (w : Wording) : '"' ∉ w.text := by
  have hall : ∀ w ∈ all, '"' ∉ w.text := by decide
  exact hall w w.mem_all

theorem text_inj {v w : Wording} (h : v.text = w.text) : v = w := by
  have hall : ∀ v ∈ all, ∀ w ∈ all, v.text = w.text → v = w := by decide
  exact hall v v.mem_all w w.mem_all h

/-- no leaf begins like a combination or a negation -/
theorem exists_head (w : Wording) : ∃ c r, w.text = c :: r ∧ c ≠ '(' ∧ c ≠ 'n' := by
  have hall : ∀ w ∈ all, w.text.head?.any (fun c => c ≠ '(' ∧ c ≠ 'n') = true := by decide
  have hw := hall w w.mem_all
  cases h : w.text with
  | nil =>
    rw [h] at hw
    cases hw
  | cons c r =>
    rw [h] at hw
    exact ⟨c, r, rfl, of_decide_eq_true hw⟩

end Wording

/-- the leaves that have some words in front -/
inductive Worded : Wording → Leaf → Prop where
  | subject (p : Text) : Worded .subject (.subject p)
  | body (p : Text) : Worded .body (.body p)
  | sender (t : Target) : Worded .sender (.sender t)
  | number (n : Int) : Worded .number (.number n)
  | received (cmp : Comparison) (m : Moment) : Worded (.received cmp) (.received (some cmp) m)
  | sent (cmp : Comparison) (m : Moment) : Worded (.sent cmp) (.sent (some cmp) m)
  | recipient (kind : RecipientKind) (t : Target) : Worded (.recipient kind) (.recipient kind t)
  | atLeast (n : Int) : Worded .atLeast (.size (some .atLeast) n)
  | atMost (n : Int) : Worded .atMost (.size (some .atMost) n)
  | flag (name : Text) (isSet : Bool) : Worded .flag (.flag name isSet)

namespace Leaf

/-- the text that the description of a leaf quotes -/
def quoted (zone : Zone) : Leaf → Except Fault Text
  | subject p | body p => .ok p
  | sender t | recipient _ t => t.describe
  | number n | size _ n => .ok (Text.decimalInt n)
  | received _ m | sent _ m => orFault .clock (zone.spoken m)
  | flag name _ => .ok (name.filter (· ≠ '\\'))

/-- the words of a leaf behind what it quotes -/
def closing : Leaf → Text
  | size _ _ => " bytes"
  | flag _ true => " set"
  | flag _ false => " not set"
  | _ => []

end Leaf

variable {zone : Zone} {w : Wording} {l l' : Leaf} {q q' : Text}

theorem describe_of_worded (hw : Worded w l) (hq : l.quoted zone = .ok q) :
    l.describe zone = .ok (w.text ++ '"' :: (q ++ '"' :: l.closing)) := by
  have hquote : ∀ a b : Text, a ++ inQuotes b = a ++ '"' :: (b ++ ['"']) := by
    intro a b
    simp [inQuotes]
  have hclose : ∀ a b c : Text, a ++ inQuotes b ++ c = a ++ '"' :: (b ++ '"' :: c) := by
    intro a b c
    simp [inQuotes]
  cases hw with
  | subject p | body p | number n =>
    cases hq
    exact congrArg Except.ok (hquote _ _)
  | atLeast n | atMost n =>
    cases hq
    exact congrArg Except.ok (hclose _ _ _)
  | flag name isSet =>
    cases hq
    cases isSet <;> exact congrArg Except.ok (hclose _ _ _)
  | sender t | recipient kind t =>
    have hq : t.describe = .ok q := hq
    simp only [Leaf.describe, hq]
    exact congrArg Except.ok (hquote _ _)
  | received cmp m | sent cmp m =>
    have hq : orFault .clock (zone.spoken m) = .ok q := hq
    simp only [Leaf.describe, Leaf.describeDate, hq]
    exact congrArg Except.ok (hquote _ _)

/-- what is described has words and a quoted text -/
theorem worded_of_describe {s : Text} (h : l.describe zone = .ok s) :
    ∃ w q, Worded w l ∧ l.quoted zone = .ok q ∧ s = w.text ++ '"' :: (q ++ '"' :: l.closing) := by
  have key : ∀ w q, Worded w l → l.quoted zone = .ok q →
      ∃ w q, Worded w l ∧ l.quoted zone = .ok q ∧ s = w.text ++ '"' :: (q ++ '"' :: l.closing) := by
    intro w q hw hq
    exact ⟨w, q, hw, hq, Except.ok.inj (h.symm.trans (describe_of_worded hw hq))⟩
  cases l with
  | body p => exact key _ _ (.body p) rfl
  | subject p => exact key _ _ (.subject p) rfl
  | number n => exact key _ _ (.number n) rfl
  | flag name isSet => exact key _ _ (.flag name isSet) rfl
  | sender t =>
    obtain ⟨q, hq, -⟩ := bind_eq_ok.1 h
    exact key _ q (.sender t) hq
  | recipient kind t =>
    obtain ⟨q, hq, -⟩ := bind_eq_ok.1 h
    exact key _ q (.recipient kind t) hq
  | received cmp m =>
    cases cmp with
    | none => cases h
    | some c =>
      obtain ⟨q, hq, -⟩ := bind_eq_ok.1 h
      exact key _ q (.received c m) hq
  | sent cmp m =>
    cases cmp with
    | none => cases h
    | some c =>
      obtain ⟨q, hq, -⟩ := bind_eq_ok.1 h
      exact key _ q (.sent c m) hq
  | size cmp n =>
    match cmp with
    | some .atLeast => exact key _ _ (.atLeast n) rfl
    | some .atMost => exact key _ _ (.atMost n) rfl
    | none | some .equal => cases h

theorem worded_of_resolved (h : l.Resolved zone) : ∃ w, Worded w l := by
  cases l with
  | body p => exact ⟨_, .body p⟩
  | subject p => exact ⟨_, .subject p⟩
  | number n => exact ⟨_, .number n⟩
  | received cmp m =>
    obtain ⟨⟨c, rfl⟩, -⟩ := h
    exact ⟨_, .received c m⟩
  | sent cmp m =>
    obtain ⟨⟨c, rfl⟩, -⟩ := h
    exact ⟨_, .sent c m⟩
  | sender t => exact ⟨_, .sender t⟩
  | recipient kind t => exact ⟨_, .recipient kind t⟩
  | size cmp n =>
    rcases h.1 with rfl | rfl
    · exact ⟨_, .atLeast n⟩
    · exact ⟨_, .atMost n⟩
  | flag name isSet => exact ⟨_, .flag name isSet⟩

theorem describe_resolveAddress (value : Text) :
    ∃ s, (Filter.resolveAddress value).describe = .ok s := by
  unfold Filter.resolveAddress
  split <;> exact ⟨_, rfl⟩

theorem spoken_of_localize {m : Moment} {s : Stamp} (h : zone.localize m = .ok s) :
    ∃ t, orFault .clock (zone.spoken m) = .ok t := by
  obtain ⟨t, -, ht, -⟩ := Zone.splitOn_spoken h
  exact ⟨t, orFault_eq_ok.2 ht⟩

theorem quoted_of_resolved (h : l.Resolved zone) : ∃ q, l.quoted zone = .ok q := by
  cases l with
  | body | subject | number | size | flag => exact ⟨_, rfl⟩
  | received cmp m | sent cmp m =>
    obtain ⟨-, s, rfl, hs⟩ := h
    exact spoken_of_localize hs
  | sender t | recipient kind t =>
    obtain ⟨value, rfl⟩ := h
    exact describe_resolveAddress value

/-! ## the end of a quoted text -/

/-- what may stand behind a term of a description -/
def followers : List Text := [")", " and ", " or "]

/-- the rest of a description behind a term -/
def Follows (rest : Text) : Prop := rest = [] ∨ ∃ w ∈ followers, w <+: rest

/-- a text that does not look like the end of a term -/
def Contained (s : Text) : Prop := ∀ w ∈ followers, ¬('"' :: w) <:+: s

section
variable {r r' s : Text}

theorem not_follows_of_contained {t : Text} (hs : Contained s) (e : s = q ++ '"' :: t) :
    ¬Follows (t ++ '"' :: r) := by
  have hquote : ∀ w ∈ followers, '"' ∉ w := by decide
  rintro (h | ⟨w, hw, h⟩)
  · exact absurd h (by simp)
  · obtain ⟨u, hu⟩ := Text.prefix_of_not_mem (hquote w hw) h
    exact hs w hw ⟨q, u, by rw [e, ← hu, List.append_assoc, List.cons_append]⟩

/-- a quoted text ends where a term can end -/
theorem close_unique (hq : Contained q) (hq' : Contained q') (hr : Follows r) (hr' : Follows r')
    (h : q ++ '"' :: r = q' ++ '"' :: r') : q = q' ∧ r = r' := by
  rcases Text.append_cons_cases h with h | ⟨t, ht, rfl⟩ | ⟨t, ht, rfl⟩
  · exact h
  · exact absurd hr (not_follows_of_contained hq' ht)
  · exact absurd hr' (not_follows_of_contained hq ht)

end

/-! ## leaves that are told apart -/

/-- some address is shown like the name -/
def Shadowed (name : Text) : Prop :=
  ∃ value a, Filter.resolveAddress value = .address a ∧ (Target.address a).describe = .ok name

/-- a target whose name, if it is a name, is no address -/
def Target.Clear (t : Target) : Prop := ∀ name, t = .personal name → ¬Shadowed name

/-- a leaf that its description tells: the quoted text does not look like the end of a term, a name not
like an address, and a keyword not like a flag that every message can have -/
structure Leaf.Clear (zone : Zone) (l : Leaf) : Prop where
  contained : ∀ s, l.quoted zone = .ok s → Contained s
  sender : ∀ t, l = .sender t → t.Clear
  recipient : ∀ kind t, l = .recipient kind t → t.Clear
  keyword : ∀ isSet, l ≠ .flag "Seen" isSet ∧ l ≠ .flag "Flagged" isSet

theorem clear_of_contained (hq : l.quoted zone = .ok q) (h : Contained q) (hp : l.isPersonal = false)
    (hk : ∀ isSet, l ≠ .flag "Seen" isSet ∧ l ≠ .flag "Flagged" isSet) : l.Clear zone := by
  refine ⟨?_, ?_, ?_, hk⟩
  · intro s hs
    rwa [← Except.ok.inj (hq.symm.trans hs)]
  · rintro t rfl name rfl
    cases hp
  · rintro kind t rfl name rfl
    cases hp

theorem not_mem_of_isKeyword {name : Text} {c : Char} (h : Filter.isKeyword name = true)
    (hc : Address.isAlnum c = false ∧ Filter.keywordMarks.contains c = false) : c ∉ name := by
  intro hmem
  rw [Filter.isKeyword, Bool.and_eq_true] at h
  have hmark := List.all_eq_true.1 h.2 c hmem
  rw [hc.1, hc.2] at hmark
  cases hmark

theorem filter_of_isKeyword {name : Text} (h : Filter.isKeyword name = true) :
    name.filter (· ≠ '\\') = name := by
  have hslash := not_mem_of_isKeyword (c := '\\') h (by decide)
  rw [List.filter_eq_self]
  intro c hc
  refine decide_eq_true ?_
  rintro rfl
  exact hslash hc

theorem not_mem_flagText {name : Text} {isSet : Bool} (h : (Leaf.flag name isSet).Resolved zone) :
    '"' ∉ name.filter (· ≠ '\\') := by
  have hname : '"' ∉ name := by
    rcases h with rfl | rfl | h
    · decide
    · decide
    · exact not_mem_of_isKeyword h (by decide)
  intro hmem
  exact hname (List.mem_filter.1 hmem).1

/-- leaves with the same words in front have words behind that tell where they end -/
theorem closing_unique {r r' : Text} (hw : Worded w l) (hw' : Worded w l')
    (h : l.closing ++ r = l'.closing ++ r') : l.closing = l'.closing ∧ r = r' := by
  have hcross : " set".toList ++ r ≠ " not set".toList ++ r' ∧
      " not set".toList ++ r ≠ " set".toList ++ r' := by
    constructor <;> (intro e; simp at e)
  cases hw with
  | subject | body | sender | number | received | sent | recipient | atLeast | atMost =>
    cases hw'
    exact ⟨rfl, List.append_cancel_left h⟩
  | flag name isSet =>
    cases hw' with
    | flag name' isSet' =>
      cases isSet <;> cases isSet'
      · exact ⟨rfl, List.append_cancel_left h⟩
      · exact absurd h hcross.2
      · exact absurd h hcross.1
      · exact ⟨rfl, List.append_cancel_left h⟩

/-- so does a leaf whose text holds no quote, whatever follows it -/
theorem quoted_unique_of_not_mem {r r' : Text} (hw : Worded w l) (hw' : Worded w l') (hq : '"' ∉ q)
    (hq' : '"' ∉ q') (h : q ++ '"' :: (l.closing ++ r) = q' ++ '"' :: (l'.closing ++ r')) :
    q = q' ∧ l.closing = l'.closing ∧ r = r' := by
  obtain ⟨htext, hrest⟩ := Text.append_cons_inj hq hq' h
  exact ⟨htext, closing_unique hw hw' hrest⟩

/-- a leaf with some words, followed by what may stand behind a term, tells what it quotes and where
it ends -/
theorem quoted_unique {r r' : Text} (hw : Worded w l) (hw' : Worded w l') (hl : l.Resolved zone)
    (hl' : l'.Resolved zone) (hc : l.Clear zone) (hc' : l'.Clear zone) (hq : l.quoted zone = .ok q)
    (hq' : l'.quoted zone = .ok q') (hr : Follows r) (hr' : Follows r')
    (h : q ++ '"' :: (l.closing ++ r) = q' ++ '"' :: (l'.closing ++ r')) :
    q = q' ∧ l.closing = l'.closing ∧ r = r' := by
  have hopen : l.closing = [] → l'.closing = [] → q = q' ∧ l.closing = l'.closing ∧ r = r' := by
    intro e e'
    rw [e, e', List.nil_append, List.nil_append] at h
    obtain ⟨htext, hrest⟩ := close_unique (hc.contained q hq) (hc'.contained q' hq') hr hr' h
    exact ⟨htext, by rw [e, e'], hrest⟩
  -- behind a number or the name of a flag there are more words, but it cannot hold a quote
  have hfree : '"' ∉ q → '"' ∉ q' → q = q' ∧ l.closing = l'.closing ∧ r = r' :=
    fun a b => quoted_unique_of_not_mem hw hw' a b h
  have hsize : ∀ n : Int, '"' ∉ Text.decimalInt n := fun n => Text.not_mem_decimalInt (by decide) n
  cases hw with
  | subject | body | sender | number | received | sent | recipient =>
    cases hw'
    exact hopen rfl rfl
  | atLeast n | atMost n =>
    cases hw' with
    | _ n' =>
      cases hq
      cases hq'
      exact hfree (hsize n) (hsize n')
  | flag name isSet =>
    cases hw' with
    | flag name' isSet' =>
      cases hq
      cases hq'
      exact hfree (not_mem_flagText hl) (not_mem_flagText hl')

/-! ## leaves that say the same -/

theorem isAmong_eq {t t' : Target} {value value' : Text} (ht : t = Filter.resolveAddress value)
    (ht' : t' = Filter.resolveAddress value') (hc : t.Clear) (hc' : t'.Clear)
    (h : t.describe = t'.describe) (ms : List Mailbox) : t.isAmong ms = t'.isAmong ms := by
  cases t with
  | address a =>
    cases t' with
    | address a' =>
      have hspec := Address.addrSpec_eq_of_describe_eq (Address.isAddrSpec_of_resolve ht.symm)
        (Address.isAddrSpec_of_resolve ht'.symm) h
      rw [Target.isAmong, Target.isAmong, hspec]
    | personal name => exact absurd ⟨value, a, ht.symm, h⟩ (hc' name rfl)
    | stray v =>
      unfold Filter.resolveAddress at ht'
      split at ht' <;> cases ht'
  | personal name =>
    cases t' with
    | address a => exact absurd ⟨value', a, ht'.symm, h.symm⟩ (hc name rfl)
    | personal name' =>
      cases h
      rfl
    | stray v => cases h
  | stray v =>
    unfold Filter.resolveAddress at ht
    split at ht <;> cases ht

theorem daysCompare_eq {s s' : Stamp} (hs : zone.toLocal s = .ok s) (hs' : zone.toLocal s' = .ok s')
    (h : orFault .clock (zone.spoken (.fixed s)) = orFault .clock (zone.spoken (.fixed s')))
    (cmp : Option Comparison) (actual : Option Stamp) :
    Leaf.daysCompare zone cmp actual (.fixed s) = Leaf.daysCompare zone cmp actual (.fixed s') := by
  have hm : zone.localize (.fixed s) = .ok s := hs
  have hm' : zone.localize (.fixed s') = .ok s' := hs'
  obtain ⟨t, -, ht, -⟩ := Zone.splitOn_spoken hm
  obtain ⟨t', -, ht', -⟩ := Zone.splitOn_spoken hm'
  have hspoken : zone.spoken (.fixed s) = zone.spoken (.fixed s') := by
    rw [ht, ht'] at h ⊢
    cases h
    rfl
  have hday := Zone.day_eq_of_spoken_eq hm hm' hspoken
  unfold Leaf.daysCompare
  rw [hm, hm']
  cases actual with
  | none => rfl
  | some a =>
    show orFault .clock (zone.toLocal a) >>= _ = orFault .clock (zone.toLocal a) >>= _
    refine congrArg _ (funext fun b => ?_)
    match cmp with
    | none => rfl
    | some .equal =>
      show Except.ok (b.day == s.day) = Except.ok (b.day == s'.day)
      rw [hday]
    | some .atMost =>
      show Except.ok (decide (b.day ≤ s.day)) = Except.ok (decide (b.day ≤ s'.day))
      rw [hday]
    | some .atLeast =>
      show Except.ok (decide (s.day ≤ b.day)) = Except.ok (decide (s'.day ≤ b.day))
      rw [hday]

/-- flags that are shown alike are the same -/
theorem flagName_unique {name name' : Text} {isSet isSet' : Bool}
    (hl : (Leaf.flag name isSet).Resolved zone) (hl' : (Leaf.flag name' isSet').Resolved zone)
    (hc : (Leaf.flag name isSet).Clear zone) (hc' : (Leaf.flag name' isSet').Clear zone)
    (h : name.filter (· ≠ '\\') = name'.filter (· ≠ '\\')) : name = name' := by
  have hseen : seenFlag.filter (· ≠ '\\') = "Seen" := by decide
  have hflagged : flaggedFlag.filter (· ≠ '\\') = "Flagged" := by decide
  have hspelled : name ≠ "Seen" ∧ name ≠ "Flagged" := by
    obtain ⟨hs, hf⟩ := hc.keyword isSet
    exact ⟨fun e => hs (by rw [e]), fun e => hf (by rw [e])⟩
  have hspelled' : name' ≠ "Seen" ∧ name' ≠ "Flagged" := by
    obtain ⟨hs, hf⟩ := hc'.keyword isSet'
    exact ⟨fun e => hs (by rw [e]), fun e => hf (by rw [e])⟩
  rcases hl with rfl | rfl | hk
  · rcases hl' with rfl | rfl | hk'
    · rfl
    · exact absurd h (by decide)
    · rw [hseen, filter_of_isKeyword hk'] at h
      exact absurd h.symm hspelled'.1
  · rcases hl' with rfl | rfl | hk'
    · exact absurd h (by decide)
    · rfl
    · rw [hflagged, filter_of_isKeyword hk'] at h
      exact absurd h.symm hspelled'.2
  · rw [filter_of_isKeyword hk] at h
    rcases hl' with rfl | rfl | hk'
    · exact absurd (h.trans hseen) hspelled.1
    · exact absurd (h.trans hflagged) hspelled.2
    · rwa [filter_of_isKeyword hk'] at h

/-- leaves with the same words in front of the same text, and the same words behind it, say the same -/
theorem holds_eq_of_quoted_eq (hw : Worded w l) (hw' : Worded w l') (hl : l.Resolved zone)
    (hl' : l'.Resolved zone) (hc : l.Clear zone) (hc' : l'.Clear zone)
    (hq : l.quoted zone = l'.quoted zone) (he : l.closing = l'.closing) (f : Fetched) :
    l.holds zone f = l'.holds zone f := by
  cases hw with
  | subject p | body p =>
    cases hw'
    cases hq
    rfl
  | number n | atLeast n | atMost n =>
    cases hw' with
    | _ n' =>
      rw [Text.decimalInt_inj (Except.ok.inj hq)]
  | sender t =>
    cases hw' with
    | sender t' =>
      obtain ⟨value, ht⟩ := hl
      obtain ⟨value', ht'⟩ := hl'
      have hsame := isAmong_eq ht ht' (hc.sender t rfl) (hc'.sender t' rfl) hq
      simp only [Leaf.holds, hsame]
  | recipient kind t =>
    cases hw' with
    | recipient _ t' =>
      obtain ⟨value, ht⟩ := hl
      obtain ⟨value', ht'⟩ := hl'
      have hsame := isAmong_eq ht ht' (hc.recipient kind t rfl) (hc'.recipient kind t' rfl) hq
      simp only [Leaf.holds, hsame]
  | received cmp m =>
    cases hw' with
    | received _ m' =>
      obtain ⟨-, s, rfl, hs⟩ := hl
      obtain ⟨-, s', rfl, hs'⟩ := hl'
      exact daysCompare_eq hs hs' hq (some cmp) f.received
  | sent cmp m =>
    cases hw' with
    | sent _ m' =>
      obtain ⟨-, s, rfl, hs⟩ := hl
      obtain ⟨-, s', rfl, hs'⟩ := hl'
      simp only [Leaf.holds, daysCompare_eq hs hs' hq]
  | flag name isSet =>
    cases hw' with
    | flag name' isSet' =>
      have hname := flagName_unique hl hl' hc hc' (Except.ok.inj hq)
      have hset : isSet = isSet' := by
        have hwords : " set".toList ≠ " not set".toList := by decide
        cases isSet <;> cases isSet'
        · rfl
        · exact absurd he.symm hwords
        · exact absurd he hwords
        · rfl
      rw [hname, hset]

end Mailroom
