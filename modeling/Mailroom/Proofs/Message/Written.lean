import Mailroom.Message.Composing
import Mailroom.Proofs.Message.Sheets
import Mailroom.Proofs.Text.Ascii

/-!
# Messages as they are written

* `IsFolded`          a field and the lines that it is written in;
* `WrittenOn`         a single part and its sheet;
* `write_container`   a message in parts is written with its header in front and its parts between boundary
  lines;
* `IsPlain`           a field that is written on one line, as it stands; whether it is, is decidable;
* `fieldOfValue_eq_ok`, `eq_of_fieldsOfValues`   fields made of values.
-/

namespace Mailroom.Message

open Lines (IsOneLine closed ended)
open Header (Folded Unbroken)

/-! ## texts as octets -/

/-- lines of characters are sent as lines of octets -/
theorem toMail_lines (ls : List Text) :
    Text.toMail (ls.flatMap fun s => s ++ ['\n']) = ended (ls.map Text.toMail) := by
  induction ls with
  | nil => rfl
  | cons s ls ih =>
    rw [List.flatMap_cons, toMail_append, toMail_append, ih, List.map_cons, Lines.ended_cons, List.append_assoc]
    rfl

/-! ## fields -/

variable {f : RawField} {ls : List Text} {name : Text}

/-- a field that is written in lines that continue each other, the first of which begins with its name -/
structure IsFolded (f : RawField) (ls : List Text) : Prop where
  name : IsName f.name
  written : (do Header.fold f.name (← MessageHeader.read f).tree) = .ok (ls.flatMap fun s => s ++ ['\n'])
  lines : Folded (f.name ++ ":") ls

/-- lines that continue each other are the lines of a field -/
theorem fieldLines_of_folded (hname : IsName name) (h : Folded (name ++ ":") ls) :
    FieldLines name (ls.map Text.toMail) := by
  obtain ⟨⟨first, rest, rfl, ⟨s, rfl⟩, hrest⟩, hone⟩ := h
  rw [List.forall_mem_cons] at hone
  have hfirst : Text.toMail (name ++ ":" ++ s) = Text.toMail name ++ 58 :: Text.toMail s := by
    rw [toMail_append, toMail_append, List.append_assoc]
    rfl
  rw [List.map_cons, hfirst]
  refine .mk hname (isOneLine_of_unbroken (Header.unbroken_append.1 hone.1).2) ?_
  intro l hl
  obtain ⟨s, hs, rfl⟩ := List.mem_map.1 hl
  obtain ⟨r, rfl⟩ := List.head?_eq_some_iff.1 (hrest s hs)
  exact ⟨isOneLine_of_unbroken (hone.2 _ hs), rfl⟩

theorem IsFolded.fieldLines (h : IsFolded f ls) : FieldLines f.name (ls.map Text.toMail) :=
  fieldLines_of_folded h.name h.lines

/-- lines of fields as octets -/
def octetLines (lss : List (List Text)) : List (List Octets) := lss.map (·.map Text.toMail)

theorem flatMap_toMail_lines (lss : List (List Text)) :
    (lss.map fun ls => ls.flatMap fun s => s ++ ['\n']).flatMap Text.toMail = ended (octetLines lss).flatten := by
  induction lss with
  | nil => rfl
  | cons ls lss ih =>
    rw [List.map_cons, List.flatMap_cons, toMail_lines, ih, ← Lines.ended_append]
    rfl

variable {h : MessageHeader} {lss : List (List Text)}

theorem isHeader_of_folded (hfolded : List.Forall₂ IsFolded h.fields lss) : IsHeader (octetLines lss) := by
  intro ls hls
  obtain ⟨ls, hmem, rfl⟩ := List.mem_map.1 hls
  obtain ⟨f, -, hf⟩ := exists_left_of_mem hfolded hmem
  exact ⟨f.name, hf.fieldLines⟩

/-- the fields of a header are written one after the other, and a blank line behind them -/
theorem writeHeader_of_folded (hfolded : List.Forall₂ IsFolded h.fields lss) :
    writeHeader h = .ok (ended (octetLines lss).flatten ++ [10]) := by
  have hlines : h.fields.mapM (fun f => do Header.fold f.name (← MessageHeader.read f).tree) =
      Except.ok (lss.map fun ls => ls.flatMap fun s => s ++ ['\n']) := by
    rw [mapM_eq_ok, List.forall₂_map_right_iff]
    exact hfolded.imp fun f ls h => h.written
  unfold writeHeader
  rw [hlines, ← flatMap_toMail_lines]
  rfl

/-! ## parts -/

/-- a single part and the sheet that it is written on -/
inductive WrittenOn : Message → Sheet → Prop
  | mk {h : MessageHeader} {lss : List (List Text)} {body : List Octets}
      (hfolded : List.Forall₂ IsFolded h.fields lss) (hbody : ∀ l ∈ body, IsOneLine l) :
      WrittenOn (leaf h (ended body)) ⟨octetLines lss, body⟩

variable {boundary : Text} {m : Message} {p : Sheet} {ms : List Message} {ps : List Sheet}

theorem WrittenOn.write (h : WrittenOn m p) : write boundary m = .ok (ended p.lines) := by
  obtain @⟨h, lss, body, hfolded, hbody⟩ := h
  rw [Message.write, writeHeader_of_folded hfolded]
  show Except.ok _ = _
  rw [Lines.plainLines_ended hbody, Sheet.lines, Lines.ended_append, Lines.ended_cons, List.append_assoc]
  rfl

theorem openingLine_eq (boundary : Text) : openingLine boundary = closed (opening boundary) := toMail_append _ _

theorem closingLine_eq (boundary : Text) : closingLine boundary = closed (closing boundary) := by
  have hsplit : "--" ++ boundary ++ "--\n" = "--" ++ boundary ++ "--" ++ ['\n'] := by simp
  rw [closingLine, hsplit, toMail_append]
  rfl

/-- parts are written between boundary lines -/
theorem exists_writeAll (boundary : Text) (h : List.Forall₂ WrittenOn ms ps) :
    ∃ o, writeAll boundary ms = .ok o ∧ o ++ closingLine boundary = ended (between boundary ps) := by
  induction h with
  | nil =>
    refine ⟨[], rfl, ?_⟩
    rw [closingLine_eq]
    simp [between, ended]
  | @cons m p ms ps hp _ ih =>
    obtain ⟨o, ho, hlines⟩ := ih
    refine ⟨openingLine boundary ++ ended p.lines ++ [10] ++ o, ?_, ?_⟩
    · rw [writeAll, hp.write, ho]
      rfl
    · rw [List.append_assoc, hlines, between, Lines.ended_append, Lines.ended_cons, Lines.ended_cons, openingLine_eq]
      simp [closed]

/-- **A message in parts is written** with its header in front and its parts between boundary lines. -/
theorem write_container (hfolded : List.Forall₂ IsFolded h.fields lss) (hparts : List.Forall₂ WrittenOn ms ps) :
    write boundary (container h ms) = .ok (ended ((octetLines lss).flatten ++ [] :: between boundary ps)) := by
  obtain ⟨o, ho, hlines⟩ := exists_writeAll boundary hparts
  rw [Message.write, writeHeader_of_folded hfolded, ho]
  show Except.ok _ = _
  rw [List.append_assoc, hlines, Lines.ended_append, Lines.ended_cons, List.append_assoc]
  rfl

/-! ## fields on one line -/

/-- a field that is written on one line, as it stands -/
structure IsPlain (f : RawField) : Prop where
  name : IsName f.name
  value : ∀ c ∈ f.value, 32 ≤ c.toNat ∧ c.toNat ≤ 126
  start : f.value.head? ≠ some ' '
  written : (do Header.fold f.name (← MessageHeader.read f).tree) =
    Except.ok (Header.label f.name ++ f.value ++ ['\n'])

instance (f : RawField) : Decidable (IsPlain f) :=
  decidable_of_iff (IsName f.name ∧ (∀ c ∈ f.value, 32 ≤ c.toNat ∧ c.toNat ≤ 126) ∧ f.value.head? ≠ some ' ' ∧
      (do Header.fold f.name (← MessageHeader.read f).tree) = Except.ok (Header.label f.name ++ f.value ++ ['\n']))
    ⟨fun ⟨a, b, c, d⟩ => ⟨a, b, c, d⟩, fun ⟨a, b, c, d⟩ => ⟨a, b, c, d⟩⟩

/-- the line of a field -/
def lineOf (f : RawField) : Text := Header.label f.name ++ f.value

theorem IsPlain.isFolded (h : IsPlain f) : IsFolded f [lineOf f] where
  name := h.name
  written := by
    rw [h.written]
    simp [lineOf]
  lines := by
    have hname : Unbroken f.name := Header.unbroken_of_printable fun c hc => by
      have := h.name.2 c hc
      omega
    have hlabel : Unbroken (Header.label f.name) :=
      Header.unbroken_append.2 ⟨Header.unbroken_append.2 ⟨hname, by decide⟩, by decide⟩
    refine ⟨⟨_, [], rfl, ?_, nofun⟩, List.forall_mem_singleton.2
      (Header.unbroken_append.2 ⟨hlabel, Header.unbroken_of_printable h.value⟩)⟩
    exact ⟨' ' :: f.value, by simp [lineOf, Header.label]⟩

/-- a field on one line is read as it stands -/
theorem IsPlain.fieldOfLines (h : IsPlain f) : fieldOfLines [Text.toMail (lineOf f)] = f := by
  obtain ⟨name, value⟩ := f
  obtain ⟨hname, hvalue, hstart, -⟩ := h
  have hascii : ∀ c ∈ value, c.toNat < 128 := fun c hc => by
    have := hvalue c hc
    omega
  have hline : closed (Text.toMail (lineOf ⟨name, value⟩)) =
      Text.toMail name ++ 58 :: 32 :: (Text.toMail value ++ [10]) := by
    rw [lineOf, Header.label, toMail_append, toMail_append, toMail_append, closed]
    simp only [List.append_assoc]
    rfl
  -- the blank behind the colon does not belong to the value, which begins with none itself
  have hblanks : (Text.toMail value ++ [10]).dropWhile (fun b => b = 32 ∨ b = 9) = Text.toMail value ++ [10] := by
    rw [toMail_of_ascii hascii]
    cases value with
    | nil => rfl
    | cons c value =>
      have hc := hvalue c List.mem_cons_self
      have hne : c.toNat ≠ 32 := fun hc => hstart (congrArg some (Char.toNat_inj.1 hc))
      have hnat : (UInt8.ofNat c.toNat).toNat = c.toNat := by
        rw [UInt8.toNat_ofNat', Nat.mod_eq_of_lt (by omega)]
      refine List.dropWhile_cons_of_neg ?_
      rw [decide_eq_true_iff, ← UInt8.toNat_inj, ← UInt8.toNat_inj, hnat]
      show ¬(c.toNat = 32 ∨ c.toNat = 9)
      omega
  have hdrop : ((Text.toMail name ++ 58 :: 32 :: (Text.toMail value ++ [10])).drop
      ((Text.toMail name).length + 1)).dropWhile (fun b => b = 32 ∨ b = 9) = Text.toMail value ++ [10] := by
    rw [← List.drop_drop, List.drop_left]
    exact hblanks
  have hunfold : unfold (Text.ofMail (Text.toMail value ++ [10] ++ [])) = value := by
    have hkept : ∀ c ∈ value, (c != '\r' && c != '\n') = true := fun c hc => by
      simp [Header.unbroken_of_printable hvalue c hc]
    rw [List.append_nil, ← closed, ofMail_closed hascii, unfold, List.filter_append, List.filter_eq_self.2 hkept]
    exact List.append_nil value
  show fieldOf _ [] = _
  rw [hline]
  unfold fieldOf
  dsimp only
  rw [takeWhile_name hname, hdrop, ofMail_toMail hname.ascii]
  exact congrArg _ hunfold

/-! ## fields made of values -/

variable {value : Text}

theorem mem_of_mem_withoutLastBreak {s : Text} {c : Char} (h : c ∈ withoutLastBreak s) : c ∈ s := by
  unfold withoutLastBreak at h
  split at h
  · rename_i r hr
    rw [← List.mem_reverse, hr]
    exact List.mem_cons_of_mem _ (List.mem_cons_of_mem _ (List.mem_reverse.1 h))
  · rename_i d r _ hr
    split at h
    · rw [← List.mem_reverse, hr]
      exact List.mem_cons_of_mem _ (List.mem_reverse.1 h)
    · exact h
  · exact h

theorem fieldOfValue_eq_ok (hvalue : ∀ c ∈ value, isLineBreak c = false)
    (hread : ∃ field, MessageHeader.read ⟨name, value⟩ = .ok field) : fieldOfValue name value = .ok ⟨name, value⟩ := by
  obtain ⟨field, hfield⟩ := hread
  have hnone : (withoutLastBreak value).any isLineBreak = false := by
    rw [List.any_eq_false]
    intro c hc
    simp [hvalue c (mem_of_mem_withoutLastBreak hc)]
  unfold fieldOfValue
  rw [hnone]
  exact bind_eq_ok.2 ⟨field, hfield, rfl⟩

/-- a field is made with the name and the value that are given -/
theorem eq_of_fieldOfValue (h : fieldOfValue name value = .ok f) : f = ⟨name, value⟩ := by
  unfold fieldOfValue at h
  split at h
  · cases h
  · obtain ⟨-, -, h⟩ := bind_eq_ok.1 h
    exact (pure_eq_ok.1 h).symm

theorem fieldsOfValues_eq_ok {fields : List RawField} (h : ∀ f ∈ fields, fieldOfValue f.name f.value = .ok f) :
    fieldsOfValues (fields.map fun f => (f.name, f.value)) = .ok fields := by
  rw [fieldsOfValues, mapM_eq_ok, List.forall₂_map_left_iff]
  exact List.forall₂_same.2 h

theorem eq_of_fieldsOfValues {fs : List (Text × Text)} {fields : List RawField} (h : fieldsOfValues fs = .ok fields) :
    fields = fs.map fun f => ⟨f.1, f.2⟩ := by
  have hmade : List.Forall₂ (fun (f : Text × Text) g => (⟨f.1, f.2⟩ : RawField) = g) fs fields :=
    (mapM_eq_ok.1 h).imp fun _ _ hf => (eq_of_fieldOfValue hf).symm
  rw [← List.forall₂_map_left_iff (f := fun f : Text × Text => (⟨f.1, f.2⟩ : RawField)), List.forall₂_eq_eq_eq] at hmade
  exact hmade.symm

/-- printable characters are no line breaks -/
theorem not_isLineBreak_of_printable {c : Char} (h : 32 ≤ c.toNat ∧ c.toNat ≤ 126) : isLineBreak c = false := by
  exact Text.forall_ascii (p := fun c => 32 ≤ c.toNat ∧ c.toNat ≤ 126 → isLineBreak c = false) (by decide)
    (by omega) h

theorem IsPlain.fieldOfValue (h : IsPlain ⟨name, value⟩) : fieldOfValue name value = .ok ⟨name, value⟩ := by
  refine fieldOfValue_eq_ok (fun c hc => not_isLineBreak_of_printable (h.value c hc)) ?_
  obtain ⟨field, hfield, -⟩ := bind_eq_ok.1 h.written
  exact ⟨field, hfield⟩

end Mailroom.Message
