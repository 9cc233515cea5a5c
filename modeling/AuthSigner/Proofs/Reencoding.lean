import AuthSigner.Proofs.CanonicalEnvelopes
import AuthSigner.Proofs.SignedText

/-! An envelope that was read, written again. Its text is the one that was read without
its white space, unless a boolean was spelled by a word other than zero and one. -/
namespace AuthSigner
open Xdr

/-- What a text spells and what is written again differ in the words of booleans only. -/
theorem respelled_of_ofText {α : Type} {c : Codec α} {booleans : α → List Bool} {text : Bytes} {x : α}
    (canonical : c.Canonical booleans) (accepted : c.ofText text = .ok x) :
    ∃ bytes, text.solid = Base64.encode bytes ∧ Respelled (booleans x) bytes (c.write x) := by
  obtain ⟨bytes, spelled, read⟩ := Codec.read_of_ofText accepted
  obtain ⟨front, whole, respelled⟩ := canonical _ bytes x [] read
  rw [List.append_nil] at whole
  exact ⟨bytes, spelled, whole ▸ respelled⟩

/-- Reading an envelope and writing it again loses nothing but the spelling of booleans.
The solid part of the text is the base64 of the bytes read, the text written again that of
as many bytes. Word by word they agree, or a word that is neither zero nor one was read
for a boolean and is written as zero. So without a boolean that is false the text is the
same but for its white space. Always the new text is read as the same envelope and comes
again from that. -/
theorem reencoding_respells_booleans {text : Bytes} {envelope : Envelope}
    (accepted : Envelope.ofText text = .ok envelope) :
    ∃ read written : Bytes,
      text.solid = Base64.encode read ∧
      Bytes.ofString (Envelope.codec.toString envelope) = Base64.encode written ∧
      Respelled envelope.booleans read written ∧
      read.length = written.length ∧ 4 ∣ written.length ∧
      (∀ i, word i read = word i written ∨
        word i written = [0, 0, 0, 0] ∧ word i read ≠ [0, 0, 0, 0] ∧ word i read ≠ [0, 0, 0, 1]) ∧
      (false ∉ envelope.booleans → read = written ∧
        Bytes.ofString (Envelope.codec.toString envelope) = text.solid) ∧
      Envelope.ofText (Bytes.ofString (Envelope.codec.toString envelope)) = .ok envelope ∧
      (Envelope.ofText (Bytes.ofString (Envelope.codec.toString envelope))).map Envelope.codec.toString =
        .ok (Envelope.codec.toString envelope) := by
  obtain ⟨read, spelled, respelled⟩ :=
    respelled_of_ofText Envelope.canonical (ofText_eq_ok.mp accepted)
  have shown := Codec.bytes_of_toString Envelope.codec envelope
  have back := decode_shown (fits_of_decoded accepted)
  refine ⟨read, Envelope.codec.write envelope, spelled, shown, respelled, respelled.length_eq,
    respelled.length_eq ▸ respelled.four_dvd, word_of_respelled respelled, ?_, back, ?_⟩
  · intro none
    have same := respelled.eq_of_true none
    exact ⟨same, by rw [shown, spelled, same, Codec.toText]⟩
  · rw [back]
    rfl

namespace Sample

/-- A call with both truth values for its arguments. -/
def flagged : SignedTransaction :=
  transaction [⟨none, .invokeHostFunction
    ⟨.invoke ⟨.contract (.zero 32), [105, 110, 99], [.scalar (.bool false), .scalar (.bool true)]⟩, []⟩⟩]

/-- A text of that call which begins with a line feed and spells its false with two. -/
def lenient : Bytes :=
  let written := Envelope.codec.write (.v1 flagged)
  10 :: Base64.encode (written.take 128 ++ count 2 ++ written.drop 132)

set_option maxRecDepth 100000 in
theorem lenient_decoded : Envelope.ofText lenient = .ok (.v1 flagged) := by rfl

end Sample

theorem reencoding_respells_flagged :
    Envelope.ofText Sample.lenient = .ok (.v1 Sample.flagged) ∧
      ∃ read written : Bytes, Sample.lenient.solid = Base64.encode read ∧
        Bytes.ofString (Envelope.codec.toString (.v1 Sample.flagged)) = Base64.encode written ∧
        Respelled [false, true] read written ∧
        word 32 read = count 2 ∧ word 32 written = count 0 := by
  obtain ⟨read, written, spelled, shown, respelled, _⟩ :=
    reencoding_respells_booleans Sample.lenient_decoded
  have first : (Base64.decode Sample.lenient.solid).bytes = read := by rw [spelled, Base64.decode_encode]
  have second : (Base64.decode (Envelope.codec.toText (.v1 Sample.flagged))).bytes = written := by
    rw [← Codec.bytes_of_toString, shown, Base64.decode_encode]
  refine ⟨Sample.lenient_decoded, read, written, spelled, shown, respelled, ?_, ?_⟩
  · rw [← first]
    decide +kernel
  · rw [← second]
    decide +kernel

end AuthSigner
