import AuthSigner.Proofs.Base64Laws
import AuthSigner.Proofs.CodecLaws
import AuthSigner.Xdr.Text

/-! Values through their text. A value that fits comes back from its text, with any
white space in it, and from the string that shows it; and what a text gives fits. -/
namespace AuthSigner

private theorem utf8_of_ascii : ∀ n < 128, String.utf8EncodeChar (Char.ofNat n) = [UInt8.ofNat n] := by
  decide

/-- A string of ASCII characters has their codes as its bytes. -/
theorem ofString_of_ascii {codes : Bytes} (ascii : ∀ b ∈ codes, b.toNat < 128) :
    Bytes.ofString (String.ofList (codes.map fun b => Char.ofNat b.toNat)) = codes := by
  change (String.ofList _).toByteArray.data.toList = codes
  rw [String.toByteArray_ofList, List.utf8Encode, List.toList_data_toByteArray, List.flatMap_map]
  induction codes with
  | nil => rfl
  | cons b codes ih =>
    rw [List.forall_mem_cons] at ascii
    rw [List.flatMap_cons, utf8_of_ascii b.toNat ascii.1, UInt8.ofNat_toNat, ih ascii.2]
    rfl

namespace Xdr.Codec

variable {α : Type} {c : Codec α} {x : α}

theorem bytes_of_toString (c : Codec α) (x : α) : Bytes.ofString (c.toString x) = c.toText x :=
  ofString_of_ascii fun b member => (Base64.encode_plain (c.write x) b member).2

/-! ## The three ends of a reading -/

theorem ofText_of_error {text : Bytes} {r : ReadError}
    (read : c.readFront (Base64.decode text.solid).bytes = .error r) :
    c.ofText text = .error (r.ofText (Base64.decode text.solid).intact) := by
  unfold ofText
  simp only [read]

theorem ofText_of_rest {text : Bytes} {x : α} {rest : Bytes}
    (read : c.readFront (Base64.decode text.solid).bytes = .ok (x, rest)) (left : rest ≠ []) :
    c.ofText text = .error .invalid := by
  unfold ofText
  simp only [read]
  rw [List.isEmpty_eq_false_iff.mpr left]
  rfl

theorem ofText_of_all {text : Bytes} {x : α}
    (read : c.readFront (Base64.decode text.solid).bytes = .ok (x, [])) :
    c.ofText text = if (Base64.decode text.solid).intact then .ok x else .error .malformedText := by
  unfold ofText
  simp only [read]
  rfl

/-! ## Values through their text -/

/-- A value that fits is what its text spells, whatever white space is put into it. -/
theorem ofText_of_solid (lawful : ∀ depth, c.Lawful depth (4 * depth)) (fits : c.Fits x) {text : Bytes}
    (spelled : text.solid = c.toText x) : c.ofText text = .ok x := by
  have read : c.readFront (c.write x) = .ok (x, []) := by
    have back := (lawful (c.write x).length).read_write x [] fits (by omega)
    rw [List.append_nil] at back
    exact back
  have decoded : Base64.decode text.solid = ⟨c.write x, true⟩ := by
    rw [spelled, toText, Base64.decode_encode]
  rw [ofText_of_all (by rw [decoded]; exact read), decoded]
  rfl

theorem ofText_toText (lawful : ∀ depth, c.Lawful depth (4 * depth)) (fits : c.Fits x) :
    c.ofText (c.toText x) = .ok x :=
  ofText_of_solid lawful fits (Base64.solid_encode _)

/-- The solid part of a text that spells a value is the text of the bytes it is read from,
and these are all needed. -/
theorem read_of_ofText {text : Bytes} (accepted : c.ofText text = .ok x) :
    ∃ bytes, text.solid = Base64.encode bytes ∧ c.readFront bytes = .ok (x, []) := by
  simp only [ofText] at accepted
  split at accepted
  · cases accepted
  · rename_i y rest read
    split at accepted
    · cases accepted
    · rename_i used
      split at accepted
      · rename_i intact
        cases accepted
        obtain rfl : rest = [] := by simpa using used
        have spelled : Base64.decode text.solid = ⟨(Base64.decode text.solid).bytes, true⟩ := by
          rw [← intact]
        exact ⟨_, (Base64.encode_of_decode spelled).symm, read⟩
      · cases accepted

/-- A text spells only values that fit. -/
theorem fits_of_ofText (lawful : ∀ depth, c.Lawful depth (4 * depth)) {text : Bytes}
    (accepted : c.ofText text = .ok x) : c.Fits x := by
  obtain ⟨bytes, _, read⟩ := read_of_ofText accepted
  exact (lawful _).fits_of_read _ _ _ read

end Xdr.Codec
end AuthSigner
