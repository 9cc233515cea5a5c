import AuthSigner.Proofs.SchemaBounds
import AuthSigner.Proofs.SignedText

/-! Envelopes through texts with white space in them. White space may stand anywhere
among the characters that were written, also inside a group of base64 or around its
padding, and the envelope that was written is read. -/
namespace AuthSigner
open Xdr

/-- The second text is the first with white space put in. -/
inductive Spaced : Bytes → Bytes → Prop where
  | nil : Spaced [] []
  | keep (b : UInt8) {text spaced : Bytes} : Spaced text spaced → Spaced (b :: text) (b :: spaced)
  /-- A space, tab, line feed, form feed or carriage return comes first. -/
  | insert {blank : UInt8} {text spaced : Bytes} : blank ∈ [32, 9, 10, 12, 13] → Spaced text spaced →
    Spaced text (blank :: spaced)

namespace Spaced

variable {text spaced : Bytes}

theorem blank_iff {b : UInt8} : b ∈ ([32, 9, 10, 12, 13] : Bytes) ↔ isBlank b = true := by
  simp [isBlank, or_assoc]

/-- White space is not part of the solid text. -/
theorem solid_eq (put : Spaced text spaced) : spaced.solid = text.solid := by
  induction put with
  | nil => rfl
  | keep b _ ih =>
    simp only [Bytes.solid, List.filter_cons] at ih ⊢
    rw [ih]
  | insert white _ ih =>
    simp only [Bytes.solid, List.filter_cons, blank_iff.mp white] at ih ⊢
    exact ih

/-- Every text is its solid part with white space put in. -/
theorem of_solid (text : Bytes) : Spaced text.solid text := by
  induction text with
  | nil => exact .nil
  | cons b rest ih =>
    by_cases white : isBlank b = true
    · have solid : Bytes.solid (b :: rest) = Bytes.solid rest := by simp [Bytes.solid, white]
      rw [solid]
      exact .insert (blank_iff.mpr white) ih
    · have solid : Bytes.solid (b :: rest) = b :: Bytes.solid rest := by simp [Bytes.solid, white]
      rw [solid]
      exact .keep b ih

end Spaced

/-- Reading undoes writing over all envelopes within the bounds of the schema. The string
that shows an envelope is the base64 of its bytes, and every text that it becomes by
putting in white space is read as that envelope. -/
theorem spaced_text_decoded {envelope : Envelope} (fits : envelope.Fits) :
    Bytes.ofString (Envelope.codec.toString envelope) = Base64.encode (Envelope.codec.write envelope) ∧
    ∀ text, Spaced (Bytes.ofString (Envelope.codec.toString envelope)) text →
      Envelope.ofText text = .ok envelope := by
  have shown := Codec.bytes_of_toString Envelope.codec envelope
  refine ⟨shown, ?_⟩
  intro text spaced
  have solid : text.solid = Envelope.codec.toText envelope := by
    rw [spaced.solid_eq, shown]
    exact Base64.solid_encode _
  exact ofText_eq_ok.mpr (Codec.ofText_of_solid (fun _ => Envelope.lawful) (Envelope.fits_iff.mpr fits) solid)

/-- The text of the sample with white space around it, inside its first group and before
its last character. -/
def Sample.airy : Bytes :=
  let shown := Envelope.codec.toText (.v1 single)
  [9] ++ shown.take 2 ++ [10, 13, 12] ++ (shown.drop 2).dropLast ++ [32] ++ shown.drop (shown.length - 1) ++ [10]

theorem spaced_text_decoded_airy :
    (Envelope.v1 Sample.single).Fits ∧
      Spaced (Bytes.ofString (Envelope.codec.toString (.v1 Sample.single))) Sample.airy ∧
      Envelope.ofText Sample.airy = .ok (.v1 Sample.single) := by
  have put : Spaced (Bytes.ofString (Envelope.codec.toString (.v1 Sample.single))) Sample.airy := by
    have solid : Sample.airy.solid = Envelope.codec.toText (.v1 Sample.single) := by decide +kernel
    rw [Codec.bytes_of_toString, ← solid]
    exact .of_solid _
  exact ⟨Sample.single_fits, put, (spaced_text_decoded Sample.single_fits).2 _ put⟩

end AuthSigner
