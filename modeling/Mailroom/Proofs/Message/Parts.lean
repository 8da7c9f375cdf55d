import Mailroom.Message.Body
import Mailroom.Proofs.Message.FileNames
import Mailroom.Proofs.Message.MediaTypes

/-!
# The parts of a message that is sent

* `partSheet`, `isPart_partSheet`   the sheet of a part;
* `content?_part`, `exists_base64`  transfer encodings are undone;
* `exists_encodeText`        a text is sent in lines that are no boundary lines, whichever encoding is chosen;
* `exists_text_sheet`        the part of the text, from which the text can be taken;
* `exists_attachment_sheet`  the part of an attachment, from which its octets can be taken.
-/

namespace Mailroom.Message

open Lines (IsOneLine closed ended)

/-! ## sheets of parts -/

/-- the sheet of a part: its media type, its transfer encoding, the lines of its other fields, and its body -/
def partSheet (type encoding : RawField) (lss : List (List Text)) (body : List Octets) : Sheet :=
  ⟨octetLines ([lineOf type] :: [lineOf encoding] :: lss), body⟩

variable {type encoding : RawField} {fs : List RawField} {lss : List (List Text)} {body : List Octets}
  {boundary : Text}

theorem message_partSheet (htype : IsPlain type) (hencoding : IsPlain encoding) :
    (partSheet type encoding lss body).message =
      leaf ⟨type :: encoding :: (octetLines lss).map fieldOfLines, false⟩ (ended body) := by
  have hfields : (octetLines ([lineOf type] :: [lineOf encoding] :: lss)).map fieldOfLines =
      type :: encoding :: (octetLines lss).map fieldOfLines := by
    show fieldOfLines [_] :: fieldOfLines [_] :: _ = _
    rw [htype.fieldOfLines, hencoding.fieldOfLines]
    rfl
  rw [Sheet.message, partSheet, hfields]

theorem writtenOn_partSheet (htype : IsPlain type) (hencoding : IsPlain encoding)
    (hfolded : List.Forall₂ IsFolded fs lss) (hbody : ∀ l ∈ body, IsOneLine l) :
    WrittenOn (leaf ⟨type :: encoding :: fs, false⟩ (ended body)) (partSheet type encoding lss body) :=
  .mk (.cons htype.isFolded (.cons hencoding.isFolded hfolded)) hbody

/-- a sheet with a single body is a part, if no line of it is a boundary line -/
theorem isPart_partSheet {t : Text} (htype : IsPlain type) (hencoding : IsPlain encoding)
    (hfolded : List.Forall₂ IsFolded fs lss) (hbody : ∀ l ∈ body, IsOneLine l)
    (hcontent : ∀ rest, (MessageHeader.mk (type :: rest) false).contentType = .ok t)
    (hmessage : MessageHeader.mainType t ≠ "message".toList)
    (hmultipart : MessageHeader.mainType t ≠ "multipart".toList)
    (hnames : ∀ f ∈ type :: encoding :: fs, f.name.head? ≠ some '-')
    (hinner : ∀ l ∈ body, boundaryLine? boundary (closed l) = none) :
    (partSheet type encoding lss body).IsPart boundary := by
  have hall : List.Forall₂ IsFolded (type :: encoding :: fs) ([lineOf type] :: [lineOf encoding] :: lss) :=
    .cons htype.isFolded (.cons hencoding.isFolded hfolded)
  refine ⟨isHeader_of_folded (h := ⟨type :: encoding :: fs, false⟩) hall, hbody, ⟨t, ?_, hmessage, hmultipart⟩, ?_⟩
  · rw [message_partSheet htype hencoding]
    exact hcontent _
  · refine List.forall_mem_append.2 ⟨fun l hl => ?_, List.forall_mem_cons.2 ⟨?_, hinner⟩⟩
    · obtain ⟨ls, hls, hmem⟩ := List.mem_flatten.1 hl
      obtain ⟨ls', hls', rfl⟩ := List.mem_map.1 hls
      obtain ⟨f, hf, hfold⟩ := exists_left_of_mem hall hls'
      exact hfold.fieldLines.not_boundary (hnames f hf) boundary l hmem
    · exact boundaryLine?_of_head (by decide)

/-! ## transfer encodings -/

/-- the transfer encodings of parts -/
def encodings : List Text := ["7bit", "8bit", "quoted-printable", "base64"]

/-- the field of a transfer encoding -/
def encodingField (e : Text) : RawField := ⟨"Content-Transfer-Encoding", e⟩

variable {e : Text} {b : Octets} {rest : List RawField}

/-- what is read of the field of a transfer encoding -/
theorem encodingField_spec : ∀ e ∈ encodings, IsPlain (encodingField e) ∧ Text.lower e = e ∧
    (do return some (← MessageHeader.read (encodingField e)).shown) = (.ok (some e) : Except Fault (Option Text)) := by
  decide +kernel

theorem isPlain_encodingField (he : e ∈ encodings) : IsPlain (encodingField e) := (encodingField_spec e he).1

/-- the transfer encoding of a part is undone -/
theorem content?_part (he : e ∈ encodings) (v : Text) :
    (leaf ⟨⟨"Content-Type", v⟩ :: encodingField e :: rest, false⟩ b).content? = .ok (some (undoTransfer e b)) := by
  have hother : MessageHeader.hasName "Content-Transfer-Encoding" ⟨"Content-Type", v⟩ = false := by
    show (Text.asciiLower "Content-Type" == Text.asciiLower "Content-Transfer-Encoding") = false
    decide
  obtain ⟨-, hlower, hshown⟩ := encodingField_spec e he
  have hfield : (MessageHeader.mk (⟨"Content-Type", v⟩ :: encodingField e :: rest) false).field?
      "Content-Transfer-Encoding" = .ok (some e) :=
    (MessageHeader.field?_append [_] (List.forall_mem_singleton.2 hother) (beq_iff_eq.2 rfl)).trans hshown
  refine bind_eq_ok.2 ⟨_, hfield, ?_⟩
  dsimp only [Option.getD_some]
  rw [hlower]
  rfl

theorem undoTransfer_base64 (b : Octets) :
    undoTransfer "base64" b = Base64.decodeLax (b.filter fun c => c ≠ 10 ∧ c ≠ 13) := by
  unfold undoTransfer
  rw [if_neg (by decide), if_pos (by decide)]

theorem undoTransfer_quoted (b : Octets) : undoTransfer "quoted-printable" b = QuotedPrintable.decode b := by
  unfold undoTransfer
  rw [if_pos (by decide)]

theorem undoTransfer_plain (he : e = "7bit" ∨ e = "8bit") (b : Octets) : undoTransfer e b = b := by
  unfold undoTransfer
  rcases he with rfl | rfl
  · rw [if_neg (by decide), if_neg (by decide), if_neg (by decide)]
  · rw [if_neg (by decide), if_neg (by decide), if_neg (by decide)]

/-- octets in base 64 stand in lines that are no boundary lines, and can be taken from them -/
theorem exists_base64 (boundary : Text) (b : Octets) :
    ∃ ls, Base64.encodeLines 19 b = ended ls ∧
      (∀ l ∈ ls, IsOneLine l ∧ boundaryLine? boundary (closed l) = none) ∧ undoTransfer "base64" (ended ls) = b := by
  obtain ⟨ls, hls, hflat⟩ := Base64.exists_encodeLines (by decide : 0 < 19) b
  have hbody : Base64.encodeLines 19 b = ended ls := hls
  refine ⟨ls, hbody, fun l hl => ?_, ?_⟩
  · have hdigits : ∀ c ∈ l, Base64.IsDigit c := fun c hc =>
      Base64.isDigit_of_mem_encode (hflat ▸ List.mem_flatten_of_mem hl hc)
    exact ⟨fun c hc => ⟨(hdigits c hc).ne.1, (hdigits c hc).ne.2.1⟩, boundaryLine?_base64 hdigits⟩
  · rw [← hbody, undoTransfer_base64]
    exact Base64.decodeLax_encodeLines (by decide) b

/-! ## the text -/

/-- the lines of a text as they are sent: at least one -/
theorem exists_joinLines (b : Octets) :
    ∃ ls, joinLines ((Lines.ofOctets b).map Lines.chop) = ended ls ∧
      ∀ l ∈ ls, l = [] ∨ ∃ m ∈ Lines.ofOctets b, l = Lines.chop m := by
  unfold joinLines
  split
  · exact ⟨[[]], rfl, List.forall_mem_singleton.2 (.inl rfl)⟩
  · refine ⟨(Lines.ofOctets b).map Lines.chop, rfl, fun l hl => .inr ?_⟩
    obtain ⟨m, hm, rfl⟩ := List.mem_map.1 hl
    exact ⟨m, hm, rfl⟩

/-- a text is sent in lines that are no boundary lines, and its octets can be taken from them -/
theorem exists_encodeText {s : Text} (hboundary : IsMade boundary)
    (hlines : ∀ l ∈ Lines.ofOctets (Utf8.encode s), boundaryLine? boundary l = none) :
    ∃ e ls, encodeText s = (e, ended ls) ∧ e ∈ encodings ∧
      (∀ l ∈ ls, IsOneLine l ∧ boundaryLine? boundary (closed l) = none) ∧
      undoTransfer e (ended ls) = Utf8.encode (Lines.ofText s) := by
  have hjoined : joinLines ((Lines.ofOctets (Utf8.encode s)).map Lines.chop) = Utf8.encode (Lines.ofText s) := by
    rw [Lines.joinLines_chop, Lines.finished_encode]
  unfold encodeText
  dsimp only
  split
  · obtain ⟨ls, hls, hmem⟩ := exists_joinLines (Utf8.encode s)
    refine ⟨_, ls, by rw [hls], by split <;> decide, fun l hl => ?_, ?_⟩
    · rcases hmem l hl with rfl | ⟨m, hm, rfl⟩
      · exact ⟨nofun, boundaryLine?_of_head (by decide)⟩
      · exact ⟨Lines.isOneLine_chop hm, (boundaryLine?_closed_chop hboundary.unbroken hm).trans (hlines m hm)⟩
    · rw [undoTransfer_plain (by split <;> simp), ← hls, hjoined]
  split
  · obtain ⟨ls, hls, hlines', hcontent⟩ :=
      exists_base64 boundary (joinLines ((Lines.ofOctets (Utf8.encode s)).map Lines.chop))
    exact ⟨_, ls, by rw [hls], by decide, hlines', hcontent.trans hjoined⟩
  · rename_i hlong _
    -- there is a line, for one is too long
    have hne : ((Lines.ofOctets (Utf8.encode s)).map Lines.chop).isEmpty = false := by
      cases hall : (Lines.ofOctets (Utf8.encode s)).map Lines.chop with
      | nil => simp [hall] at hlong
      | cons l ls => rfl
    obtain ⟨ls, hls, hwritten⟩ := QuotedPrintable.exists_encodeBody ((Lines.ofOctets (Utf8.encode s)).map Lines.chop)
    have hbody : QuotedPrintable.encodeBody ((Lines.ofOctets (Utf8.encode s)).map Lines.chop) = ended ls := hls
    refine ⟨_, ls, by rw [hbody], by decide, fun l hl => ?_, ?_⟩
    · exact ⟨(hwritten l hl).isOneLine, boundaryLine?_quoted hboundary (hwritten l hl)⟩
    · rw [undoTransfer_quoted, ← hbody, QuotedPrintable.decode_encodeBody, ← hjoined, joinLines, hne]
      rfl

/-- the field of the media type of a text -/
def textField : RawField := ⟨"Content-Type", "text/plain; charset=\"utf-8\""⟩

/-- what is read of the field of the media type -/
theorem textField_spec : IsPlain textField ∧
    (do return some (← MessageHeader.read textField).shown) =
      (.ok (some textField.value) : Except Fault (Option Text)) ∧
    Text.lower (MessageHeader.mainPart textField.value) = "text/plain" ∧
    ((MessageHeader.parametersOf textField.value).find? fun p => Text.lower p.1 == "charset").map (·.2) =
      some ("utf-8" : Text) := by
  decide +kernel

theorem field?_textField (rest : List RawField) :
    (MessageHeader.mk (textField :: rest) false).field? "Content-Type" = .ok (some textField.value) :=
  (MessageHeader.field?_append [] nofun (beq_iff_eq.2 rfl)).trans textField_spec.2.1

theorem contentType_textField (rest : List RawField) :
    (MessageHeader.mk (textField :: rest) false).contentType = .ok "text/plain".toList := by
  refine bind_eq_ok.2 ⟨_, field?_textField rest, ?_⟩
  dsimp only
  rw [textField_spec.2.2.1]
  rfl

theorem charset?_textField (rest : List RawField) :
    (MessageHeader.mk (textField :: rest) false).charset? = .ok (some "utf-8".toList) := by
  have hparameter : (MessageHeader.mk (textField :: rest) false).parameter? "Content-Type" "charset" =
      .ok (some "utf-8".toList) :=
    bind_eq_ok.2 ⟨_, field?_textField rest, congrArg Except.ok textField_spec.2.2.2⟩
  refine bind_eq_ok.2 ⟨_, hparameter, ?_⟩
  rfl

theorem ofText_ne_nil (s : Text) : Lines.ofText s ≠ [] := by
  intro hnil
  unfold Lines.ofText at hnil
  split at hnil
  · rename_i hlast
    rw [hnil] at hlast
    cases hlast
  · exact absurd (List.append_eq_nil_iff.1 hnil).2 (List.cons_ne_nil _ _)

/-- UTF-8 is read back -/
theorem firstReading?_encode {s : Text} (hs : s ≠ []) (names : List Text) :
    firstReading? ("utf-8" :: names) (Utf8.encode s) = some s := by
  have hname : (!Charset.isName "utf-8") = false := by decide
  have hne : (Utf8.encode s).isEmpty = false := by
    obtain ⟨c, s, rfl⟩ := List.exists_cons_of_ne_nil hs
    obtain ⟨b, bs, hb, -⟩ := Utf8.next_encode c []
    rw [Utf8.encode_cons, hb]
    rfl
  rw [firstReading?, hname, hne, Charset.named?_utf8]
  dsimp only
  rw [Charset.decode_utf8_encode]
  rfl

/-- **A text is written as a part from which it can be taken**, with line feeds for all its line breaks. -/
theorem exists_text_sheet {s : Text} (hboundary : IsMade boundary)
    (hlines : ∀ l ∈ Lines.ofOctets (Utf8.encode s), boundaryLine? boundary l = none) :
    ∃ m p, textPart s = .ok m ∧ WrittenOn m p ∧ p.IsPart boundary ∧ p.message.contentType = .ok "text/plain".toList ∧
      p.message.decodedText? = some (Lines.ofText s) := by
  obtain ⟨e, ls, hencode, he, hlines', hcontent⟩ := exists_encodeText hboundary hlines
  have hone : ∀ l ∈ ls, IsOneLine l := fun l hl => (hlines' l hl).1
  have htype := textField_spec.1
  have hencoding := isPlain_encodingField he
  have hall : ∀ f ∈ [textField, encodingField e], fieldOfValue f.name f.value = .ok f :=
    List.forall_mem_cons.2 ⟨htype.fieldOfValue, List.forall_mem_singleton.2 hencoding.fieldOfValue⟩
  have hmade := fieldsOfValues_eq_ok hall
  refine ⟨_, partSheet textField (encodingField e) [] ls, ?_, writtenOn_partSheet htype hencoding .nil hone, ?_, ?_, ?_⟩
  · unfold textPart
    rw [hencode]
    exact bind_eq_ok.2 ⟨_, hmade, rfl⟩
  · have hmessage : MessageHeader.mainType "text/plain" ≠ "message".toList := by decide
    have hmultipart : MessageHeader.mainType "text/plain" ≠ "multipart".toList := by decide
    refine isPart_partSheet htype hencoding .nil hone contentType_textField hmessage hmultipart ?_
      fun l hl => (hlines' l hl).2
    have htypeHead : textField.name.head? ≠ some '-' := by decide
    have hencodingHead : ("Content-Transfer-Encoding" : Text).head? ≠ some '-' := by decide
    exact List.forall_mem_cons.2 ⟨htypeHead, List.forall_mem_singleton.2 hencodingHead⟩
  · rw [message_partSheet htype hencoding]
    exact contentType_textField _
  · have hpart : (leaf ⟨textField :: encodingField e :: (octetLines []).map fieldOfLines, false⟩ (ended ls)).content? =
        .ok (some (Utf8.encode (Lines.ofText s))) := by
      rw [← hcontent]
      exact content?_part he _
    rw [message_partSheet htype hencoding, decodedText?, hpart]
    dsimp only
    rw [header, charset?_textField]
    exact firstReading?_encode (ofText_ne_nil s) _

/-! ## attachments -/

/-- the fields of an attachment behind its media type and its transfer encoding -/
def attachmentFields (path : Text) : List RawField :=
  ⟨"Content-Disposition",
    dispositionValue (if Path.isImage path then "inline" else "attachment") (Path.baseName path)⟩ ::
    (if Path.isImage path then [⟨"Content-ID", "<image>"⟩] else []) ++ [⟨"MIME-Version", "1.0"⟩]

variable {path : Text} {content : Octets} {f : RawField}

theorem mem_attachmentFields (h : f ∈ attachmentFields path) :
    (∃ v ∈ dispositions, f = ⟨"Content-Disposition", dispositionValue v (Path.baseName path)⟩) ∨
      f ∈ [(⟨"Content-ID", "<image>"⟩ : RawField), ⟨"MIME-Version", "1.0"⟩] := by
  unfold attachmentFields at h
  rw [List.mem_append, List.mem_cons] at h
  rcases h with (h | h) | h
  · refine .inl ⟨_, ?_, h⟩
    split <;> decide
  · split at h
    · exact .inr (List.mem_cons.2 (.inl (List.mem_singleton.1 h)))
    · cases h
  · exact .inr (List.mem_cons_of_mem _ h)

/-- the fields of an attachment can be made, and are written on lines of their own -/
theorem attachmentFields_spec (hname : IsFileName (Path.baseName path)) (h : f ∈ attachmentFields path) :
    fieldOfValue f.name f.value = .ok f ∧ (∃ ls, IsFolded f ls) ∧ f.name.head? ≠ some '-' := by
  rcases mem_attachmentFields h with ⟨v, hv, rfl⟩ | h
  · exact ⟨fieldOfValue_disposition hv hname, exists_isFolded_disposition hv hname,
      (by decide : ("Content-Disposition" : Text).head? ≠ some '-')⟩
  · have hplain := (by decide +kernel : ∀ f ∈ [(⟨"Content-ID", "<image>"⟩ : RawField), ⟨"MIME-Version", "1.0"⟩],
      IsPlain f ∧ f.name.head? ≠ some '-') f h
    exact ⟨hplain.1.fieldOfValue, ⟨_, hplain.1.isFolded⟩, hplain.2⟩

theorem attachmentPart_eq (hname : IsFileName (Path.baseName path)) :
    attachmentPart path content = .ok (leaf ⟨⟨"Content-Type", MediaType.ofPath path⟩ :: encodingField "base64" ::
      attachmentFields path, false⟩ (Base64.encodeLines 19 content)) := by
  have htype := (isPlain_mediaType (MediaType.isSingle_ofPath path)).fieldOfValue
  have hencoding := (isPlain_encodingField (e := "base64") (by decide)).fieldOfValue
  have hall : ∀ f ∈ ⟨"Content-Type", MediaType.ofPath path⟩ :: encodingField "base64" :: attachmentFields path,
      fieldOfValue f.name f.value = .ok f :=
    List.forall_mem_cons.2 ⟨htype, List.forall_mem_cons.2 ⟨hencoding, fun f hf => (attachmentFields_spec hname hf).1⟩⟩
  have hfields := fieldsOfValues_eq_ok hall
  refine bind_eq_ok.2 ⟨_, ?_, rfl⟩
  rw [← hfields]
  unfold attachmentFields
  cases Path.isImage path <;> rfl

/-- **An attachment is written as a part from which its content can be taken.** -/
theorem exists_attachment_sheet (hname : IsFileName (Path.baseName path))
    (hmessage : MessageHeader.mainType (MediaType.ofPath path) ≠ "message".toList) (boundary : Text) :
    ∃ m p, attachmentPart path content = .ok m ∧ WrittenOn m p ∧ p.IsPart boundary ∧
      p.message.isContainer = false ∧ p.message.content? = .ok (some content) := by
  have hsingle := MediaType.isSingle_ofPath path
  have htype := isPlain_mediaType hsingle
  have hencoding := isPlain_encodingField (e := "base64") (by decide)
  obtain ⟨ls, hbody, hlines, hcontent⟩ := exists_base64 boundary content
  have hone : ∀ l ∈ ls, IsOneLine l := fun l hl => (hlines l hl).1
  obtain ⟨lss, hfolded⟩ := exists_aligned fun f hf => (attachmentFields_spec hname hf).2.1
  refine ⟨_, partSheet ⟨"Content-Type", MediaType.ofPath path⟩ (encodingField "base64") lss ls,
    attachmentPart_eq hname, ?_, ?_, rfl, ?_⟩
  · rw [hbody]
    exact writtenOn_partSheet htype hencoding hfolded hone
  · refine isPart_partSheet htype hencoding hfolded hone (contentType_mediaType hsingle) hmessage
      (mainType_mediaType hsingle) ?_ fun l hl => (hlines l hl).2
    have htypeHead : ("Content-Type" : Text).head? ≠ some '-' := by decide
    have hencodingHead : (encodingField "base64").name.head? ≠ some '-' := by decide
    exact List.forall_mem_cons.2 ⟨htypeHead, List.forall_mem_cons.2 ⟨hencodingHead,
      fun f hf => (attachmentFields_spec hname hf).2.2⟩⟩
  · rw [message_partSheet htype hencoding, ← hcontent]
    exact content?_part (by decide) _

end Mailroom.Message
