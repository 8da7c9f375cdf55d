import Mailroom.Proofs.Message.Boundaries

/-!
# Parts between boundary lines

* `FieldLines`, `fieldOfLines`   the lines of a field, and the field that is read from them;
* `IsHeader`, `splitHeader_header`   a header is read field by field, up to the blank line behind it;
* `Sheet`, `Sheet.IsPart`        a part as it stands between boundary lines;
* `partLines?_between`           parts are found again;
* `Sheet.IsPart.ofLines_chop`    each is read as the message that it is;
* `read_between`                 a message in parts is read back.
-/

namespace Mailroom.Message

open Lines (IsOneLine closed ended)

/-! ## names of fields -/

/-- a name that a field can have: printable ASCII without blanks and colons -/
def IsName (name : Text) : Prop := name ≠ [] ∧ ∀ c ∈ name, 33 ≤ c.toNat ∧ c.toNat ≤ 126 ∧ c ≠ ':'

instance (name : Text) : Decidable (IsName name) := inferInstanceAs (Decidable (_ ∧ _))

variable {name : Text} {l : Octets} {b : UInt8}

theorem IsName.ascii (h : IsName name) : ∀ c ∈ name, c.toNat < 128 := fun c hc => by
  have := h.2 c hc
  omega

theorem IsName.mem_toMail (h : IsName name) (hb : b ∈ Text.toMail name) : 33 ≤ b ∧ b ≤ 126 ∧ b ≠ 58 := by
  rw [toMail_of_ascii h.ascii, List.mem_map] at hb
  obtain ⟨c, hc, rfl⟩ := hb
  obtain ⟨hlow, hhigh, hcolon⟩ := h.2 c hc
  have hnat : (UInt8.ofNat c.toNat).toNat = c.toNat := by
    rw [UInt8.toNat_ofNat', Nat.mod_eq_of_lt (by omega)]
  refine ⟨?_, ?_, fun heq => hcolon ?_⟩
  · rw [UInt8.le_iff_toNat_le, hnat]
    exact hlow
  · rw [UInt8.le_iff_toNat_le, hnat]
    exact hhigh
  · rw [← UInt8.toNat_inj, hnat] at heq
    exact Char.toNat_inj.1 heq

/-! ## the lines of a field -/

/-- the lines of a field: its name and a colon stand in front of the first one, a blank in front of the
others -/
inductive FieldLines (name : Text) : List Octets → Prop
  | mk (hname : IsName name) {v : Octets} (hv : IsOneLine v) {more : List Octets}
      (hmore : ∀ l ∈ more, IsOneLine l ∧ isContinuation l = true) :
      FieldLines name ((Text.toMail name ++ 58 :: v) :: more)

/-- the field that is read from its lines -/
def fieldOfLines : List Octets → RawField
  | [] => ⟨[], []⟩
  | l :: more => fieldOf (closed l) (more.map closed)

theorem dropWhile_name (h : IsName name) (r : Octets) :
    (Text.toMail name ++ 58 :: r).dropWhile (fun b => 33 ≤ b ∧ b ≤ 126 ∧ b ≠ 58) = 58 :: r :=
  dropWhile_stop (fun b hb => by simpa using h.mem_toMail hb) (by simp)

theorem takeWhile_name (h : IsName name) (r : Octets) :
    (Text.toMail name ++ 58 :: r).takeWhile (· ≠ 58) = Text.toMail name :=
  takeWhile_stop (fun b hb => by simpa using (h.mem_toMail hb).2.2) (by simp)

theorem isHeaderLine_name (h : IsName name) (r : Octets) : isHeaderLine (Text.toMail name ++ 58 :: r) = true := by
  unfold isHeaderLine
  rw [dropWhile_name h]
  simp

/-- no name reaches to the blank of an envelope line -/
theorem not_isEnvelope_name (h : IsName name) (r : Octets) :
    isHeaderLine.isEnvelope (Text.toMail name ++ 58 :: r) = false := by
  rw [Bool.eq_false_iff]
  intro henvelope
  obtain ⟨t, ht⟩ := List.isPrefixOf_iff_prefix.1 henvelope
  have htake := congrArg (List.takeWhile (· ≠ 58)) ht
  rw [takeWhile_name h] at htake
  have hblank : (32 : UInt8) ∈ Text.toMail name := by
    rw [← htake, List.takeWhile_append_of_pos (by decide)]
    exact List.mem_append_left _ (by decide)
  exact absurd (h.mem_toMail hblank).1 (by decide)

theorem not_isContinuation_name (h : IsName name) (r : Octets) :
    isContinuation (Text.toMail name ++ 58 :: r) = false := by
  have hhead : ∀ b ∈ (Text.toMail name ++ 58 :: r).head?, b ≠ 32 ∧ b ≠ 9 := by
    intro b hb
    cases hs : Text.toMail name with
    | nil =>
      obtain rfl : 58 = b := by simpa [hs] using hb
      decide
    | cons c s =>
      obtain rfl : c = b := by simpa [hs] using hb
      have hlow := (h.mem_toMail (hs ▸ List.mem_cons_self)).1
      constructor <;> rintro rfl <;> exact absurd hlow (by decide)
  cases hr : (Text.toMail name ++ 58 :: r).head? with
  | none => simp [isContinuation, hr]
  | some b =>
    have hb := hhead b hr
    simp [isContinuation, hr, hb]

theorem head_ne_colon (h : IsName name) (r : Octets) : (Text.toMail name ++ 58 :: r).head? ≠ some 58 := by
  intro hhead
  cases hs : Text.toMail name with
  | nil =>
    rw [toMail_of_ascii h.ascii, List.map_eq_nil_iff] at hs
    exact h.1 hs
  | cons c s =>
    obtain rfl : c = 58 := by simpa [hs] using hhead
    exact (h.mem_toMail (hs ▸ List.mem_cons_self)).2.2 rfl

variable {ls more rest : List Octets}

theorem closed_name (name : Text) (v : Octets) :
    closed (Text.toMail name ++ 58 :: v) = Text.toMail name ++ 58 :: (v ++ [10]) := by
  rw [closed, List.append_assoc, List.cons_append]

theorem isContinuation_closed (h : isContinuation l = true) : isContinuation (closed l) = true := by
  cases l with
  | nil => cases h
  | cons c l => exact h

theorem isHeaderLine_of_isContinuation (h : isContinuation l = true) : isHeaderLine l = true := by
  unfold isHeaderLine
  unfold isContinuation at h
  rw [h]
  rfl

theorem not_isEnvelope_of_isContinuation (h : isContinuation l = true) : isHeaderLine.isEnvelope l = false := by
  cases l with
  | nil => cases h
  | cons c l =>
    have hc : c = 32 ∨ c = 9 := by simpa [isContinuation] using h
    rcases hc with rfl | rfl <;> rfl

/-- the lines of a field are lines of a header and none is an envelope line -/
theorem FieldLines.mem (h : FieldLines name ls) {l : Octets} (hl : l ∈ ls.map closed) :
    isHeaderLine l = true ∧ isHeaderLine.isEnvelope l = false := by
  obtain @⟨hname, v, hv, more, hmore⟩ := h
  rcases List.mem_cons.1 hl with rfl | hl
  · rw [closed_name]
    exact ⟨isHeaderLine_name hname _, not_isEnvelope_name hname _⟩
  · obtain ⟨m, hm, rfl⟩ := List.mem_map.1 hl
    have hcontinues := isContinuation_closed (hmore m hm).2
    exact ⟨isHeaderLine_of_isContinuation hcontinues, not_isEnvelope_of_isContinuation hcontinues⟩

theorem FieldLines.isOneLine (h : FieldLines name ls) : ∀ l ∈ ls, IsOneLine l := by
  obtain @⟨hname, v, hv, more, hmore⟩ := h
  refine List.forall_mem_cons.2 ⟨?_, fun l hl => (hmore l hl).1⟩
  refine Lines.isOneLine_append.2 ⟨fun b hb => ?_, Lines.isOneLine_cons.2 ⟨by decide, hv⟩⟩
  have hlow := (hname.mem_toMail hb).1
  constructor <;> rintro rfl <;> exact absurd hlow (by decide)

/-- the field that is read from its lines has its name -/
theorem FieldLines.name_eq (h : FieldLines name ls) : (fieldOfLines ls).name = name := by
  obtain @⟨hname, v, hv, more, hmore⟩ := h
  show Text.ofMail ((closed (Text.toMail name ++ 58 :: v)).takeWhile (· ≠ 58)) = name
  rw [closed_name, takeWhile_name hname, ofMail_toMail hname.ascii]

/-- no line of a field is a boundary line, unless its name begins with a hyphen -/
theorem FieldLines.not_boundary (h : FieldLines name ls) (hhead : name.head? ≠ some '-') (boundary : Text) :
    ∀ l ∈ ls, boundaryLine? boundary (closed l) = none := by
  obtain @⟨hname, v, hv, more, hmore⟩ := h
  refine List.forall_mem_cons.2 ⟨?_, fun l hl => ?_⟩
  · obtain ⟨c, n, rfl⟩ := List.exists_cons_of_ne_nil hname.1
    have hc := hname.2 c List.mem_cons_self
    have hnat : (UInt8.ofNat c.toNat).toNat = c.toNat := by
      rw [UInt8.toNat_ofNat', Nat.mod_eq_of_lt (by omega)]
    rw [toMail_of_ascii hname.ascii]
    refine boundaryLine?_of_head fun heq => hhead (congrArg some (Char.toNat_inj.1 ?_))
    rw [← hnat]
    exact congrArg UInt8.toNat heq
  · have hcontinues := (hmore l hl).2
    cases l with
    | nil => cases hcontinues
    | cons c l =>
      have hc : c = 32 ∨ c = 9 := by simpa [isContinuation] using hcontinues
      exact boundaryLine?_of_head (by rcases hc with rfl | rfl <;> decide)

/-! ## headers -/

theorem fieldsOf_continuations (h : ∀ l ∈ more, isContinuation l = true) (rest : List Octets) :
    fieldsOf (more ++ rest) = fieldsOf rest := by
  induction more with
  | nil => rfl
  | cons l more ih =>
    rw [List.forall_mem_cons] at h
    rw [List.cons_append, fieldsOf, if_pos (by simp [h.1]), ih h.2]

/-- the lines of a field are read as that field in front of whatever does not continue it -/
theorem FieldLines.fieldsOf_append (h : FieldLines name ls) (hrest : ∀ l ∈ rest.head?, isContinuation l = false) :
    fieldsOf (ls.map closed ++ rest) = fieldOfLines ls :: fieldsOf rest := by
  obtain @⟨hname, v, hv, more, hmore⟩ := h
  have hcontinues : ∀ l ∈ more.map closed, isContinuation l = true := by
    intro l hl
    obtain ⟨m, hm, rfl⟩ := List.mem_map.1 hl
    exact isContinuation_closed (hmore m hm).2
  rw [List.map_cons, List.cons_append, fieldsOf, takeWhile_append_of_head hcontinues hrest,
    fieldsOf_continuations hcontinues, if_neg]
  · rfl
  · have hcolon := head_ne_colon hname (v ++ [10])
    rw [closed_name, not_isContinuation_name hname, not_isEnvelope_name hname]
    simpa using hcolon

/-- the lines of several fields -/
def IsHeader (fields : List (List Octets)) : Prop := ∀ ls ∈ fields, ∃ name, FieldLines name ls

theorem head_not_continuation {fields : List (List Octets)} (h : IsHeader fields) :
    ∀ l ∈ (fields.flatten.map closed).head?, isContinuation l = false := by
  intro l hl
  cases fields with
  | nil => cases hl
  | cons ls fields =>
    obtain ⟨name, @⟨hname, v, hv, more, hmore⟩⟩ := h ls List.mem_cons_self
    obtain rfl : closed (Text.toMail name ++ 58 :: v) = l := by simpa using hl
    rw [closed_name]
    exact not_isContinuation_name hname _

theorem fieldsOf_header {fields : List (List Octets)} (h : IsHeader fields) :
    fieldsOf (fields.flatten.map closed) = fields.map fieldOfLines := by
  induction fields with
  | nil => rfl
  | cons ls fields ih =>
    have hrest : IsHeader fields := fun ls hls => h ls (List.mem_cons_of_mem _ hls)
    obtain ⟨name, hls⟩ := h ls List.mem_cons_self
    rw [List.flatten_cons, List.map_append, hls.fieldsOf_append (head_not_continuation hrest), ih hrest,
      List.map_cons]

/-- a header that was written is read field by field, up to the blank line behind it -/
theorem splitHeader_header {fields : List (List Octets)} (h : IsHeader fields) (body : List Octets) :
    splitHeader (fields.flatten.map closed ++ [10] :: body) = (fields.map fieldOfLines, body) := by
  have hmem : ∀ l ∈ fields.flatten.map closed, isHeaderLine l = true ∧ isHeaderLine.isEnvelope l = false := by
    intro l hl
    obtain ⟨l', hl', rfl⟩ := List.mem_map.1 hl
    obtain ⟨ls, hls, hmem⟩ := List.mem_flatten.1 hl'
    obtain ⟨name, hfield⟩ := h ls hls
    exact hfield.mem (List.mem_map_of_mem hmem)
  have hblank : isHeaderLine [10] = false := rfl
  unfold splitHeader
  rw [takeWhile_stop (fun l hl => (hmem l hl).1) hblank, dropWhile_stop (fun l hl => (hmem l hl).1) hblank]
  show divide (fields.flatten.map closed) body = _
  unfold divide
  cases hlast : (fields.flatten.map closed).getLast? with
  | none =>
    rw [List.getLast?_eq_none_iff] at hlast
    rw [← fieldsOf_header h, hlast]
    rfl
  | some l =>
    have henvelope := (hmem l (List.mem_of_getLast? hlast)).2
    simp only [henvelope, Bool.false_eq_true, false_and, if_false, fieldsOf_header h]

/-! ## parts between boundary lines -/

/-- a part as it stands between boundary lines: the lines of each of its fields, and those of its body -/
structure Sheet where
  fields : List (List Octets)
  body : List Octets

namespace Sheet

/-- the lines of a part, with the blank line behind its header -/
def lines (p : Sheet) : List Octets := p.fields.flatten ++ [] :: p.body

/-- the part as a message -/
def message (p : Sheet) : Message := leaf ⟨p.fields.map fieldOfLines, false⟩ (ended p.body)

/-- a part that is not made of parts itself and that holds no boundary line -/
structure IsPart (boundary : Text) (p : Sheet) : Prop where
  header : IsHeader p.fields
  body : ∀ l ∈ p.body, IsOneLine l
  single : ∃ type, p.message.contentType = .ok type ∧ MessageHeader.mainType type ≠ "message".toList ∧
    MessageHeader.mainType type ≠ "multipart".toList
  inner : ∀ l ∈ p.lines, boundaryLine? boundary (closed l) = none

end Sheet

/-- the lines of parts between boundary lines; an empty line stands behind each part -/
def between (boundary : Text) : List Sheet → List Octets
  | [] => [closing boundary]
  | p :: ps => opening boundary :: p.lines ++ [] :: between boundary ps

variable {p : Sheet} {ps : List Sheet}

/-- the lines of a part as a reader of parts sees them -/
def Sheet.piece (p : Sheet) : List Octets := p.lines.map closed ++ [[10]]

theorem Sheet.IsPart.not_isBoundary (h : p.IsPart boundary) : ∀ l ∈ p.piece, isBoundary boundary l = false := by
  refine List.forall_mem_append.2 ⟨fun l hl => ?_, List.forall_mem_singleton.2 ?_⟩
  · obtain ⟨m, hm, rfl⟩ := List.mem_map.1 hl
    rw [isBoundary, h.inner m hm]
    rfl
  · rw [isBoundary, boundaryLine?_of_head (by decide)]
    rfl

theorem map_between_cons (boundary : Text) (p : Sheet) (ps : List Sheet) :
    (between boundary (p :: ps)).map closed =
      closed (opening boundary) :: (p.piece ++ (between boundary ps).map closed) := by
  simp [between, Sheet.piece, closed]

/-- a part ends at the next boundary line -/
theorem partsFrom_part {part rest : List Octets} {l : Octets} {n : Nat} (hne : part ≠ [])
    (hpart : ∀ m ∈ part, isBoundary boundary m = false) (hl : isBoundary boundary l = true) :
    partsFrom boundary (n + 1) (part ++ l :: rest) =
      if boundaryLine? boundary l = some .closing then [part] else part :: partsFrom boundary n rest := by
  have hfirst : ∀ m ∈ (part ++ l :: rest).head?, isBoundary boundary m = false := by
    obtain ⟨m, part, rfl⟩ := List.exists_cons_of_ne_nil hne
    rintro _ ⟨rfl⟩
    exact hpart m List.mem_cons_self
  have hdrop : (part ++ l :: rest).dropWhile (isBoundary boundary) = part ++ l :: rest :=
    dropWhile_append_of_head (a := []) nofun hfirst
  have hpart' : ∀ m ∈ part, (!isBoundary boundary m) = true := fun m hm => by rw [hpart m hm]; rfl
  have hl' : (!isBoundary boundary l) = false := by rw [hl]; rfl
  rw [partsFrom_succ, hdrop, takeWhile_stop hpart' hl', dropWhile_stop hpart' hl']

/-- parts are found again one after the other -/
theorem partsFrom_between (hascii : ∀ c ∈ boundary, c.toNat < 128) {n : Nat} (hn : ps.length < n)
    (hp : p.IsPart boundary) (hps : ∀ q ∈ ps, q.IsPart boundary) :
    partsFrom boundary n (p.piece ++ (between boundary ps).map closed) = (p :: ps).map Sheet.piece := by
  obtain ⟨n, rfl⟩ : ∃ k, n = k + 1 := ⟨n - 1, by omega⟩
  have hne : p.piece ≠ [] := by simp [Sheet.piece]
  induction ps generalizing p n with
  | nil =>
    have hclosing := boundaryLine?_closing hascii
    have hstop : isBoundary boundary (closed (closing boundary)) = true := by rw [isBoundary, hclosing]; rfl
    rw [between, List.map_singleton, partsFrom_part hne hp.not_isBoundary hstop, if_pos hclosing]
    rfl
  | cons q ps ih =>
    have hopening := boundaryLine?_opening hascii
    have hstop : isBoundary boundary (closed (opening boundary)) = true := by rw [isBoundary, hopening]; rfl
    obtain ⟨n, rfl⟩ : ∃ k, n = k + 1 := ⟨n - 1, by rw [List.length_cons] at hn; omega⟩
    have hlater := ih (hps q List.mem_cons_self) (fun q' hq' => hps q' (List.mem_cons_of_mem q hq')) n
      (by rw [List.length_cons] at hn; omega) (by simp [Sheet.piece])
    rw [map_between_cons, partsFrom_part hne hp.not_isBoundary hstop, if_neg (by rw [hopening]; decide), hlater]
    rfl

theorem length_le_between (boundary : Text) (ps : List Sheet) : ps.length ≤ (between boundary ps).length := by
  induction ps with
  | nil => exact Nat.zero_le _
  | cons p ps ih =>
    rw [between]
    simp only [List.length_cons, List.length_append]
    omega

theorem partLines?_between (hascii : ∀ c ∈ boundary, c.toNat < 128) (hps : ∀ q ∈ p :: ps, q.IsPart boundary) :
    partLines? boundary ((between boundary (p :: ps)).map closed) = some ((p :: ps).map Sheet.piece) := by
  rw [List.forall_mem_cons] at hps
  have hopening := boundaryLine?_opening hascii
  have hlength : ps.length < ((between boundary (p :: ps)).map closed).length := by
    rw [List.length_map]
    exact length_le_between boundary (p :: ps)
  rw [← partsFrom_between hascii hlength hps.1 hps.2]
  unfold partLines?
  rw [map_between_cons, List.dropWhile_cons_of_neg (by simp [hopening])]
  exact if_pos hopening

/-! ## parts read -/

theorem chop_ended (ls : List Octets) : Lines.chop (ended ls ++ [10]) = ended ls := by
  rcases List.eq_nil_or_concat ls with rfl | ⟨ls, l, rfl⟩
  · rfl
  · have hlast : ended (ls.concat l) = ended ls ++ l ++ [10] := by
      simp [ended, closed, List.concat_eq_append]
    rw [hlast]
    unfold Lines.chop
    simp

/-- a message with neither parts nor a message inside keeps its body as it is -/
theorem ofLines_single {h : MessageHeader} {ls body : List Octets} {inDigest : Bool} {type : Text}
    (hsplit : splitHeader ls = (h.fields, body)) (hdigest : h.inDigest = inDigest)
    (htype : h.contentType = .ok type) (hmessage : MessageHeader.mainType type ≠ "message".toList)
    (hmultipart : MessageHeader.mainType type ≠ "multipart".toList) (n : Nat) :
    ofLines (n + 1) inDigest ls = .ok (leaf h body.flatten) := by
  have hstatus : type ≠ "message/delivery-status".toList := by
    rintro rfl
    exact hmessage (by decide)
  subst hdigest
  rw [ofLines, hsplit]
  show (do
    let type ← h.contentType
    _) = _
  rw [htype]
  show (if type = "message/delivery-status".toList then _ else _) = _
  rw [if_neg hstatus, if_neg hmessage, if_neg hmultipart]
  rfl

/-- a part is read as the message that it is -/
theorem Sheet.IsPart.ofLines_chop (h : p.IsPart boundary) (n : Nat) :
    (do chop (← ofLines (n + 1) false p.piece)) = .ok p.message := by
  obtain ⟨type, htype, hmessage, hmultipart⟩ := h.single
  have hpiece : p.piece = p.fields.flatten.map closed ++ [10] :: (p.body.map closed ++ [[10]]) := by
    simp [Sheet.piece, Sheet.lines, closed]
  have hflat : (p.body.map closed ++ [[10]]).flatten = ended p.body ++ [10] := by
    rw [List.flatten_append, Lines.flatten_map_closed]
    rfl
  have hsplit := splitHeader_header h.header (p.body.map closed ++ [[10]])
  have hread : ofLines (n + 1) false (p.fields.flatten.map closed ++ [10] :: (p.body.map closed ++ [[10]])) =
      .ok (leaf ⟨p.fields.map fieldOfLines, false⟩ (p.body.map closed ++ [[10]]).flatten) :=
    ofLines_single hsplit rfl htype hmessage hmultipart n
  rw [hpiece, hread, hflat]
  show chop (leaf _ _) = _
  rw [chop]
  refine bind_eq_ok.2 ⟨type, htype, ?_⟩
  rw [if_neg hmultipart, chop_ended]
  rfl

/-! ## a message in parts -/

/-- a boundary of visible ASCII characters -/
def IsVisible (boundary : Text) : Prop := ∀ c ∈ boundary, 33 ≤ c.toNat ∧ c.toNat ≤ 126

theorem IsVisible.ascii (h : IsVisible boundary) : ∀ c ∈ boundary, c.toNat < 128 := fun c hc => by
  have := h c hc
  omega

theorem IsHeader.isOneLine {fields : List (List Octets)} (h : IsHeader fields) :
    ∀ l ∈ fields.flatten, IsOneLine l := by
  intro l hl
  obtain ⟨ls, hls, hmem⟩ := List.mem_flatten.1 hl
  obtain ⟨name, hfield⟩ := h ls hls
  exact hfield.isOneLine l hmem

theorem IsVisible.isOneLine (h : IsVisible boundary) : IsOneLine (Text.toMail boundary) :=
  isOneLine_of_unbroken (Header.unbroken_of_printable fun c hc => by
    have := h c hc
    omega)

theorem isOneLine_between (hboundary : IsVisible boundary) (hps : ∀ q ∈ ps, q.IsPart boundary) :
    ∀ l ∈ between boundary ps, IsOneLine l := by
  have hhyphens : IsOneLine (Text.toMail "--") := isOneLine_of_unbroken (by decide)
  have hopening : IsOneLine (opening boundary) := by
    rw [opening, toMail_append]
    exact Lines.isOneLine_append.2 ⟨hhyphens, hboundary.isOneLine⟩
  have hclosing : IsOneLine (closing boundary) := by
    rw [closing, toMail_append]
    exact Lines.isOneLine_append.2 ⟨hopening, hhyphens⟩
  induction ps with
  | nil => exact List.forall_mem_singleton.2 hclosing
  | cons p ps ih =>
    rw [List.forall_mem_cons] at hps
    have hlines : ∀ l ∈ p.lines, IsOneLine l :=
      List.forall_mem_append.2 ⟨hps.1.header.isOneLine, List.forall_mem_cons.2 ⟨nofun, hps.1.body⟩⟩
    exact List.forall_mem_append.2 ⟨List.forall_mem_cons.2 ⟨hopening, hlines⟩,
      List.forall_mem_cons.2 ⟨nofun, ih hps.2⟩⟩

/-- **A message in parts is read back.**  Its header is read field by field, and each part as the message
that it is. -/
theorem read_between {fields : List (List Octets)} (hvisible : IsVisible boundary) (hfields : IsHeader fields)
    (hps : ∀ q ∈ p :: ps, q.IsPart boundary)
    (htype : (MessageHeader.mk (fields.map fieldOfLines) false).contentType = .ok "multipart/mixed".toList)
    (hboundary : (MessageHeader.mk (fields.map fieldOfLines) false).boundary? = .ok (some boundary)) :
    read (ended (fields.flatten ++ [] :: between boundary (p :: ps))) =
      .ok (container ⟨fields.map fieldOfLines, false⟩ ((p :: ps).map Sheet.message)) := by
  have hone : ∀ l ∈ fields.flatten ++ [] :: between boundary (p :: ps), IsOneLine l :=
    List.forall_mem_append.2 ⟨hfields.isOneLine, List.forall_mem_cons.2 ⟨nofun, isOneLine_between hvisible hps⟩⟩
  have hlines := Lines.ofOctets_ended_append hone []
  rw [List.append_nil, Lines.ofOctets, List.append_nil, List.map_append, List.map_cons] at hlines
  have hparts : ∀ k, ((p :: ps).map Sheet.piece).mapM (fun q => do chop (← ofLines (k + 1) false q)) =
      Except.ok ((p :: ps).map Sheet.message) := by
    intro k
    rw [mapM_eq_ok, List.forall₂_map_left_iff, List.forall₂_map_right_iff]
    exact List.forall₂_same.2 fun q hq => (hps q hq).ofLines_chop k
  unfold read
  rw [hlines]
  dsimp only
  generalize hn : (fields.flatten.map closed ++ closed [] :: (between boundary (p :: ps)).map closed).length = n
  obtain ⟨n, rfl⟩ : ∃ k, n = k + 1 := ⟨n - 1, by
    rw [List.length_append, List.length_cons] at hn
    omega⟩
  rw [ofLines, show closed [] = [10] from rfl, splitHeader_header hfields]
  refine bind_eq_ok.2 ⟨_, htype, ?_⟩
  rw [if_neg (by decide), if_neg (by decide), if_pos (by decide)]
  refine bind_eq_ok.2 ⟨_, hboundary, ?_⟩
  dsimp only
  rw [partLines?_between hvisible.ascii hps]
  exact bind_eq_ok.2 ⟨_, hparts n, rfl⟩

end Mailroom.Message
