import Mailroom.Message.Composing
import Mailroom.Proofs.Message.Written
import Mailroom.Proofs.Text.Ascii

/-!
# Media types in headers

* `MediaType.isSingle_ofPath`   the media type of a file has two halves, fits on a line, and is not that of
  several parts;
* `isPlain_mediaType`           its field is written on one line;
* `contentType_mediaType`       and is read back.
-/

namespace Mailroom

namespace MediaType

/-- a character of a media type in lower case -/
def isTypeChar (c : Char) : Bool := c.isLower || c.isDigit || c == '+' || c == '-' || c == '.'

/-- a half of a media type in lower case -/
def IsHalf (v : Text) : Prop := v ≠ [] ∧ ∀ c ∈ v, isTypeChar c = true

instance (v : Text) : Decidable (IsHalf v) := inferInstanceAs (Decidable (_ ∧ _))

/-- whether a text is a media type of a single part without parameters, in lower case, and fits on the line of
its field -/
def isSingle (type : Text) : Bool :=
  match Text.cutAt '/' type with
  | (a, some b) => IsHalf a && IsHalf b && a.length + b.length < 64 && a != "multipart".toList
  | _ => false

/-- the media types that files can have -/
def types : List Text := octetStream :: table.map fun row => row.1.toList

theorem mem_types_of_ofExtension? {e t : Text} (h : ofExtension? e = some t) : t ∈ types := by
  unfold ofExtension? at h
  obtain ⟨row, hrow, rfl⟩ := Option.map_eq_some_iff.1 h
  exact List.mem_cons_of_mem _ (List.mem_map_of_mem (List.mem_of_find?_eq_some hrow))

theorem getD_mem_types {t? : Option Text} (h : ∀ t, t? = some t → t ∈ types) : t?.getD octetStream ∈ types := by
  cases t? with
  | none => exact List.mem_cons_self
  | some t => exact h t rfl

theorem ofPath_mem_types (path : Text) : ofPath path ∈ types := by
  unfold ofPath
  split
  · exact List.mem_cons_self
  split
  · exact getD_mem_types fun _ => mem_types_of_ofExtension?
  split
  · refine getD_mem_types fun t ht => ?_
    obtain ⟨e, -, he⟩ := Option.bind_eq_some_iff.1 ht
    exact mem_types_of_ofExtension? he
  · exact getD_mem_types fun _ => mem_types_of_ofExtension?

theorem isSingle_ofPath (path : Text) : isSingle (ofPath path) = true := by
  have hall : ∀ type ∈ types, isSingle type = true := by decide
  exact hall _ (ofPath_mem_types path)

/-- what is the same for all characters of media types -/
theorem isTypeChar_spec {c : Char} (h : isTypeChar c = true) :
    (Header.endsWord c = false ∧ Header.opensFiller c = false ∧ 33 ≤ c.toNat ∧ c.toNat ≤ 126) ∧
      c.toLower = c ∧ c ≠ '/' ∧ c ≠ ';' ∧ Text.isBlank c = false := by
  have hlow : c.toNat < 128 := by
    simp only [isTypeChar, Bool.or_eq_true, beq_iff_eq] at h
    rcases h with (((h | h) | rfl) | rfl) | rfl
    · have hle : c.toNat ≤ 'z'.toNat := of_decide_eq_true (Bool.and_eq_true_iff.1 h).2
      exact Nat.lt_of_le_of_lt hle (by decide)
    · exact Text.lt_of_isDigit h
    all_goals decide
  exact Text.forall_ascii (p := fun c => isTypeChar c = true → (Header.endsWord c = false ∧
    Header.opensFiller c = false ∧ 33 ≤ c.toNat ∧ c.toNat ≤ 126) ∧ c.toLower = c ∧ c ≠ '/' ∧ c ≠ ';' ∧
    Text.isBlank c = false) (by decide) hlow h

end MediaType

namespace MessageHeader

variable {rest : List RawField} {f : RawField} {name : Text} {inDigest : Bool}

/-- the first field of a name is found behind fields of other names -/
theorem field?_append (front : List RawField) (hfront : ∀ g ∈ front, hasName name g = false)
    (hf : hasName name f = true) :
    (mk (front ++ f :: rest) inDigest).field? name = (do return some (← read f).shown) := by
  have hnone : front.find? (hasName name) = none := List.find?_eq_none.2 fun g hg => by simp [hfront g hg]
  unfold field?
  rw [List.find?_append, hnone, Option.none_or, List.find?_cons_of_pos hf]

end MessageHeader

namespace Message

open Header (Token Scan.wordToken)
open MediaType (IsHalf isSingle isTypeChar_spec)

theorem isWord_of_isHalf {v : Text} (h : IsHalf v) : Header.Scan.IsWord v :=
  ⟨h.1, fun c hc => ⟨(isTypeChar_spec (h.2 c hc)).1.1, (isTypeChar_spec (h.2 c hc)).1.2.1⟩⟩

/-- the halves of a media type -/
theorem exists_halves {type : Text} (h : isSingle type = true) :
    ∃ a b, type = a ++ '/' :: b ∧ IsHalf a ∧ IsHalf b ∧ a.length + b.length < 64 ∧ a ≠ "multipart".toList := by
  unfold isSingle at h
  split at h
  · rename_i a b hcut
    simp only [Bool.and_eq_true, decide_eq_true_eq, bne_iff_ne] at h
    exact ⟨a, b, Text.of_cutAt_eq_some hcut, h.1.1.1, h.1.1.2, h.1.2, h.2⟩
  · cases h

/-- the tree of a media type -/
def typeTree (a b : Text) : Token := .form .mediaType [Header.Scan.wordToken a, .markChar '/', Header.Scan.wordToken b]

theorem text_typeTree (a b : Text) : (typeTree a b).text = a ++ '/' :: b := by
  simp [typeTree, Header.Scan.wordToken, Token.text, Token.textAll, Token.form, Token.markChar]

variable {a b : Text}

theorem printable_halves (ha : IsHalf a) (hb : IsHalf b) : ∀ c ∈ a ++ '/' :: b, 33 ≤ c.toNat ∧ c.toNat ≤ 126 := by
  refine List.forall_mem_append.2 ⟨fun c hc => (isTypeChar_spec (ha.2 c hc)).1.2.2,
    List.forall_mem_cons.2 ⟨by decide, ?_⟩⟩
  exact fun c hc => (isTypeChar_spec (hb.2 c hc)).1.2.2

theorem clear_halves (ha : IsHalf a) (hb : IsHalf b) : Header.Clear (a ++ '/' :: b) :=
  Header.clear_of_printable fun c hc => by
    have := printable_halves ha hb c hc
    omega

/-- a media type and its parameters are read as they are scanned -/
theorem read_typeField {v : Text} {t : Token} (hne : v ≠ []) (hscan : Header.Scan.mediaType v = .ok (t, [])) :
    MessageHeader.read ⟨"Content-Type", v⟩ = .ok (.ofToken t) := by
  have hkind : Header.Kind.ofName "Content-Type" = .mediaType := by decide
  have hempty : v.isEmpty = false := by simpa using hne
  have hread : MessageHeader.read ⟨"Content-Type", v⟩ = Header.Field.read (Header.Kind.ofName "Content-Type") v := rfl
  rw [hread, hkind, Header.Field.read, hempty]
  show Header.Field.ofScan Header.Scan.mediaType v = _
  unfold Header.Field.ofScan
  rw [StateT.run, hscan]

/-- a media type is read as it stands -/
theorem read_mediaType (ha : IsHalf a) (hb : IsHalf b) :
    MessageHeader.read ⟨"Content-Type", a ++ '/' :: b⟩ = .ok ⟨typeTree a b, a ++ '/' :: b⟩ := by
  have hscan := Header.Scan.mediaType_run (s := []) (isWord_of_isHalf ha) (isWord_of_isHalf hb) nofun rfl
  rw [List.append_nil] at hscan
  rw [read_typeField (by simp) hscan]
  show Except.ok (Header.Field.ofToken (typeTree a b)) = _
  rw [Header.Field.ofToken, text_typeTree, (clear_halves ha hb).settle]

theorem isPlain_mediaType {type : Text} (h : isSingle type = true) : IsPlain ⟨"Content-Type", type⟩ := by
  obtain ⟨a, b, rfl, ha, hb, hlength, -⟩ := exists_halves h
  have hprintable := printable_halves ha hb
  have hname : IsName "Content-Type" := by decide
  refine ⟨hname, fun c hc => by have := hprintable c hc; omega, ?_, ?_⟩
  · intro hhead
    have hblank := (hprintable ' ' (List.mem_of_mem_head? hhead)).1
    exact absurd hblank (by decide)
  · have hfits : ("Content-Type" : Text).length + 2 + (typeTree a b).text.length ≤ Header.lineLimit := by
      rw [text_typeTree, List.length_append, List.length_cons]
      show 12 + 2 + _ ≤ 78
      omega
    have hlabel : Header.Clear "Content-Type" := by decide
    have hfold := Header.fold_fits hlabel (text_typeTree a b ▸ clear_halves ha hb) hfits
    rw [read_mediaType ha hb]
    exact hfold.trans (congrArg (fun s => Except.ok (Header.label "Content-Type" ++ s ++ ['\n'])) (text_typeTree a b))

/-- the media type of a part is the one in front of its header -/
theorem contentType_mediaType {type : Text} (h : isSingle type = true) (rest : List RawField) :
    (MessageHeader.mk (⟨"Content-Type", type⟩ :: rest) false).contentType = .ok type := by
  obtain ⟨a, b, rfl, ha, hb, -, -⟩ := exists_halves h
  have hfield : (MessageHeader.mk (⟨"Content-Type", a ++ '/' :: b⟩ :: rest) false).field? "Content-Type" =
      .ok (some (a ++ '/' :: b)) := by
    refine (MessageHeader.field?_append [] nofun ?_).trans ?_
    · exact beq_iff_eq.2 rfl
    rw [read_mediaType ha hb]
    rfl
  have hmain : Text.lower (MessageHeader.mainPart (a ++ '/' :: b)) = a ++ '/' :: b := by
    have hplain : ∀ c ∈ a ++ '/' :: b, c.toLower = c ∧ c ≠ ';' ∧ Text.isBlank c = false := by
      refine List.forall_mem_append.2 ⟨fun c hc => ?_, List.forall_mem_cons.2 ⟨by decide, fun c hc => ?_⟩⟩
      · have hspec := (isTypeChar_spec (ha.2 c hc)).2
        exact ⟨hspec.1, hspec.2.2⟩
      · have hspec := (isTypeChar_spec (hb.2 c hc)).2
        exact ⟨hspec.1, hspec.2.2⟩
    have hascii : ∀ c ∈ a ++ '/' :: b, c.toNat < 128 := fun c hc => by
      have := printable_halves ha hb c hc
      omega
    rw [MessageHeader.mainPart, Text.cutAt_of_not_mem fun hmem => (hplain _ hmem).2.1 rfl, Text.trim,
      Text.trimWhere_eq_self fun c hc => (hplain c hc).2.2, Text.lower_of_ascii hascii]
    exact (List.map_congr_left fun c hc => (hplain c hc).1).trans (List.map_id _)
  have hcount : (a ++ '/' :: b).count '/' = 1 := by
    have hslash : ∀ {v : Text}, IsHalf v → v.count '/' = 0 := fun hv =>
      List.count_eq_zero.2 fun hmem => (isTypeChar_spec (hv.2 _ hmem)).2.2.1 rfl
    rw [List.count_append, List.count_cons_self, hslash ha, hslash hb]
  refine bind_eq_ok.2 ⟨_, hfield, ?_⟩
  dsimp only
  rw [hmain, if_pos hcount]
  rfl

theorem mainType_mediaType {type : Text} (h : isSingle type = true) :
    MessageHeader.mainType type ≠ "multipart".toList := by
  obtain ⟨a, b, rfl, ha, -, -, hne⟩ := exists_halves h
  have hslash : '/' ∉ a := fun hmem => (isTypeChar_spec (ha.2 _ hmem)).2.2.1 rfl
  rw [MessageHeader.mainType, Text.cutAt_append_cons hslash]
  exact hne

end Message
end Mailroom
