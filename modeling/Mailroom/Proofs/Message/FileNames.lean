import Mailroom.Proofs.Message.Written

/-!
# File names in headers

The name of a file stands in a parameter of the disposition: in quotes if it is ASCII, else in percent
encoding.

* `IsFileName`                    names that a header can carry;
* `exists_parameters_filename`    the parameter is read, and its value stands on one line again;
* `fieldOfValue_disposition`, `exists_isFolded_disposition`   the field can be made, and is folded well.
-/

namespace Mailroom.Message

open Header (Unbroken Clear Token)
open Header.Scan (HasNoMark IsWord wordToken)

variable {name : Text}

/-! ## file names -/

/-- a name of a file that a header can carry: on one line, and without the beginning of an encoded word -/
structure IsFileName (name : Text) : Prop where
  line : ∀ c ∈ name, isLineBreak c = false
  mark : name.all Text.isAscii = true → HasNoMark name

instance (name : Text) : Decidable (IsFileName name) :=
  decidable_of_iff ((∀ c ∈ name, isLineBreak c = false) ∧ (name.all Text.isAscii = true → ¬['=', '?'] <:+: name))
    ⟨fun ⟨a, b⟩ => ⟨a, b⟩, fun ⟨a, b⟩ => ⟨a, b⟩⟩

theorem unbroken_of_no_lineBreak {s : Text} (h : ∀ c ∈ s, isLineBreak c = false) : Unbroken s := by
  intro c hc
  have hno := h c hc
  constructor <;> rintro rfl <;> exact absurd hno (by decide)

theorem isParameterName_filename : Header.Scan.IsParameterName "filename" := ⟨by decide, by decide⟩

theorem eq_nil_of_toMail {s : Text} (h : Text.toMail s = []) : s = [] := by
  cases s with
  | nil => rfl
  | cons c s =>
    have hc := (List.append_eq_nil_iff.1 h).1
    cases hraw : Text.rawOctet? c with
    | some b => simp [hraw] at hc
    | none =>
      obtain ⟨b, bs, hb, -⟩ := Utf8.next_encode c []
      simp [hraw, hb] at hc

/-- the octets of a file name that is not ASCII hold no line break -/
theorem unbroken_extendedValue (h : Unbroken name) :
    Unbroken (Header.extendedValue "utf-8" (Percent.encode name)) := by
  have hvisible : ∀ c ∈ Percent.encode name, 33 ≤ c.toNat ∧ c.toNat ≤ 126 := fun c hc => (Percent.mem_encode hc).2
  have hclear : Clear (Percent.encode name) := Header.clear_of_printable fun c hc => by
    have := hvisible c hc
    omega
  have hraw : ((Percent.encode name).any fun c => (Text.rawOctet? c).isSome) = false := by
    rw [List.any_eq_false]
    intro c hc
    simp [(hclear c hc).2.2]
  have hvalue : Header.extendedValue "utf-8" (Percent.encode name) = Charset.utf8.keeping (Text.toMail name) := by
    unfold Header.extendedValue
    rw [hraw, Charset.named?_utf8, Percent.decode_encode]
    rfl
  rw [hvalue]
  -- a control character of the value comes from an octet of the name that is one
  intro c hc
  have hone := isOneLine_of_unbroken h
  constructor <;> rintro rfl
  · obtain ⟨x, hx, hnat⟩ := Charset.exists_of_mem_keeping hc (by decide)
    exact (hone x hx).1 (UInt8.toNat_inj.1 hnat)
  · obtain ⟨x, hx, hnat⟩ := Charset.exists_of_mem_keeping hc (by decide)
    exact (hone x hx).2 (UInt8.toNat_inj.1 hnat)

/-- a file name is read from its parameter, and stands on one line again -/
theorem exists_parameters_filename (h : IsFileName name) :
    ∃ w, Header.Scan.parameters (' ' :: filenameParameter name) = .ok (.parameters [("filename", w)], []) ∧
      Unbroken w := by
  have hname := unbroken_of_no_lineBreak h.line
  unfold filenameParameter
  cases hascii : name.all Text.isAscii with
  | true =>
    have hsplit : ("filename=" : Text) = "filename" ++ ['='] := by decide
    have hparameters := Header.Scan.parameters_quote isParameterName_filename (h.mark hascii)
    refine ⟨name, ?_, hname⟩
    rw [if_pos rfl, hsplit, List.append_assoc]
    exact hparameters
  | false =>
    have hsplit : ("filename*=utf-8''" : Text) = "filename" ++ '*' :: '=' :: ("utf-8" ++ ['\'', '\'']) := by decide
    have hne : Percent.encode name ≠ [] := by
      intro hnil
      have hback := Percent.decode_encode name
      rw [hnil] at hback
      rw [eq_nil_of_toMail hback.symm] at hascii
      cases hascii
    have hparameters := Header.Scan.parameters_extended isParameterName_filename hne fun c hc =>
      (Percent.mem_encode hc).1
    refine ⟨_, ?_, unbroken_extendedValue hname⟩
    rw [if_neg Bool.false_ne_true, hsplit]
    simp only [List.append_assoc, List.cons_append] at hparameters ⊢
    exact hparameters

theorem line_filenameParameter (h : IsFileName name) : ∀ c ∈ filenameParameter name, isLineBreak c = false := by
  have hescaped : ∀ c ∈ Header.quote name, isLineBreak c = false := by
    intro c hc
    rcases Header.mem_quote hc with rfl | rfl | hc
    · decide
    · decide
    · exact h.line c hc
  have hencoded : ∀ c ∈ Percent.encode name, isLineBreak c = false := fun c hc =>
    not_isLineBreak_of_printable (by have := (Percent.mem_encode hc).2; omega)
  unfold filenameParameter
  split
  · exact List.forall_mem_append.2 ⟨by decide, hescaped⟩
  · exact List.forall_mem_append.2 ⟨by decide, hencoded⟩

/-! ## the field of a disposition -/

/-- the value of the field of a disposition with a file name -/
def dispositionValue (v name : Text) : Text := v ++ "; " ++ filenameParameter name

/-- the words of a disposition that attachments have -/
def dispositions : List Text := ["inline", "attachment"]

variable {v : Text}

/-- a disposition with a file name is read -/
theorem exists_read_disposition (hv : v ∈ dispositions) (h : IsFileName name) :
    ∃ w, MessageHeader.read ⟨"Content-Disposition", dispositionValue v name⟩ =
        .ok (.ofToken (.form .disposition [wordToken v, .markChar ';', .parameters [("filename", w)]])) ∧
      Unbroken w := by
  obtain ⟨w, hw, hline⟩ := exists_parameters_filename h
  have hword : IsWord v := (by decide : ∀ v ∈ dispositions, IsWord v) v hv
  have hsplit : dispositionValue v name = v ++ ';' :: ' ' :: filenameParameter name := by
    rw [dispositionValue, List.append_assoc]
    rfl
  have hscan := Header.Scan.disposition_run hword hw
  refine ⟨w, ?_, hline⟩
  show Header.Field.ofScan Header.Scan.disposition _ = _
  unfold Header.Field.ofScan
  rw [StateT.run, hsplit, hscan]

/-- the field of a disposition can be made, and is written on lines of its own -/
theorem fieldOfValue_disposition (hv : v ∈ dispositions) (h : IsFileName name) :
    fieldOfValue "Content-Disposition" (dispositionValue v name) =
      .ok ⟨"Content-Disposition", dispositionValue v name⟩ := by
  obtain ⟨w, hw, -⟩ := exists_read_disposition hv h
  have hword : ∀ c ∈ v, isLineBreak c = false := (by decide : ∀ v ∈ dispositions, ∀ c ∈ v, isLineBreak c = false) v hv
  refine fieldOfValue_eq_ok ?_ ⟨_, hw⟩
  exact List.forall_mem_append.2 ⟨List.forall_mem_append.2 ⟨hword, by decide⟩, line_filenameParameter h⟩

theorem exists_isFolded_disposition (hv : v ∈ dispositions) (h : IsFileName name) :
    ∃ ls, IsFolded ⟨"Content-Disposition", dispositionValue v name⟩ ls := by
  obtain ⟨w, hw, hline⟩ := exists_read_disposition hv h
  have hclear : Clear v := (by decide : ∀ v ∈ dispositions, Clear v) v hv
  have hlength : ("Content-Disposition" : Text).length + v.length + 3 ≤ Header.lineLimit :=
    (by decide : ∀ v ∈ dispositions, ("Content-Disposition" : Text).length + v.length + 3 ≤ Header.lineLimit) v hv
  have hes : ∀ e ∈ [(("filename" : Text), w)], Unbroken e.1 ∧ Unbroken e.2 :=
    List.forall_mem_singleton.2 ⟨(by decide : Unbroken "filename"), hline⟩
  have hlabel : Clear "Content-Disposition" := by decide
  obtain ⟨ls, hls, hfolded⟩ := Header.fold_disposition hlabel hclear hlength hes
  refine ⟨ls, ⟨(by decide : IsName "Content-Disposition"), ?_, hfolded⟩⟩
  rw [hw]
  exact hls

end Mailroom.Message
