import Mailroom.Codec.Percent
import Mailroom.Header.Phrase
import Mailroom.Proofs.Codec.Utf8
import Mailroom.Proofs.Lists
import Mailroom.Proofs.Text.Ascii

/-!
# Percent encoding is read back

* `encodeOctet_spec`   what an octet is encoded in, for all 256 of them;
* `decode_encode`      the octets of a text are read back;
* `mem_encode`         the characters of an encoded text are visible and end no value.
-/

namespace Mailroom.Percent

/-- the octets of one encoded octet: itself, or a percent sign and two hexadecimal digits -/
def Stands (b : UInt8) (o : Octets) : Prop :=
  match o with
  | [x] => x = b ∧ x ≠ 37
  | [p, x, y] =>
    p = 37 ∧
      (do return UInt8.ofNat ((← QuotedPrintable.hexValue? x) * 16 + (← QuotedPrintable.hexValue? y))) = some b
  | _ => False

instance (b : UInt8) (o : Octets) : Decidable (Stands b o) := by
  unfold Stands
  split <;> infer_instance

/-- the characters that an octet is encoded in are visible and end no value in extended form -/
theorem encodeOctet_spec : ∀ b : UInt8, Stands b (Utf8.encode (encodeOctet isPlain b)) ∧
    ∀ c ∈ encodeOctet isPlain b, Header.endsExtended c = false ∧ 33 ≤ c.toNat ∧ c.toNat ≤ 126 :=
  Text.forall_octet (by decide +kernel)

theorem decode_of_stands {b : UInt8} {o : Octets} (h : Stands b o) (r : Octets) : decode (o ++ r) = b :: decode r := by
  match o, h with
  | [x], h =>
    obtain ⟨rfl, hx⟩ := h
    rw [List.singleton_append, decode]
    rintro a b r' rfl
    exact absurd rfl hx
  | [p, x, y], h =>
    obtain ⟨rfl, hxy⟩ := h
    show decode (37 :: x :: y :: r) = _
    cases hx : QuotedPrintable.hexValue? x with
    | none => simp [hx] at hxy
    | some m =>
      cases hy : QuotedPrintable.hexValue? y with
      | none => simp [hx, hy] at hxy
      | some n =>
        rw [decode, hx, hy]
        simpa [hx, hy] using hxy

/-- the octets of a text are read back from its percent encoding -/
theorem decode_encode (s : Text) : decode (Utf8.encode (encode s)) = Text.toMail s := by
  unfold encode encodeExcept
  induction Text.toMail s with
  | nil => rfl
  | cons b o ih => rw [List.flatMap_cons, Utf8.encode_append, decode_of_stands (encodeOctet_spec b).1, ih]

theorem mem_encode {s : Text} {c : Char} (h : c ∈ encode s) :
    Header.endsExtended c = false ∧ 33 ≤ c.toNat ∧ c.toNat ≤ 126 := by
  obtain ⟨b, -, hc⟩ := List.mem_flatMap.1 h
  exact (encodeOctet_spec b).2 c hc

end Mailroom.Percent
