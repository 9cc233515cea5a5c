import AuthSigner.Proofs.Base32Laws
import AuthSigner.Proofs.ChecksumLaws

/-! The texts of keys, told without a reader or a writer of them: a byte for the kind, the payload and two
bytes that check both, as a number to the base 32. A reader of one kind takes exactly the texts of that
kind. They are all in capitals, and no two keys share one. -/
namespace AuthSigner.StrKey

/-- A key's text, by its first byte and its payload. -/
def KeyText (version : UInt8) (payload : Bytes) (text : List Char) : Prop :=
  ∃ check, Checks (version :: payload) check ∧ Positional Base32.alphabet text (version :: payload ++ check)

variable {kind : Kind} {version version' : UInt8} {payload payload' body check : Bytes} {text text' : List Char}

theorem length_checksum (body : Bytes) : (checksum body).length = 2 := length_littleEndian 2 _

/-- A text is read as a payload exactly if it is what is written for it. -/
theorem decode_eq_some_iff {text : String} : decode? kind text = some payload ↔ text = encode kind payload := by
  have written : text = encode kind payload ↔
      text.toList = Base32.encode (kind.version :: payload ++ checksum (kind.version :: payload)) := by
    rw [encode, ← String.toList_inj, String.toList_ofList]
  rw [written, ← Base32.decode_eq_some_iff]
  simp only [decode?, bind, Option.bind_eq_some_iff]
  constructor
  · rintro ⟨bytes, read, taken⟩
    have whole := List.take_append_drop (bytes.length - 2) bytes
    generalize bytes.take (bytes.length - 2) = body at taken whole
    generalize bytes.drop (bytes.length - 2) = check at taken whole
    cases body with
    | nil => cases taken
    | cons first rest =>
      simp only at taken
      split at taken
      · rename_i fits
        obtain ⟨rfl, rfl⟩ := fits
        cases taken
        rw [read, ← whole]
      · cases taken
  · intro read
    refine ⟨_, read, ?_⟩
    have front : (kind.version :: payload ++ checksum (kind.version :: payload)).length - 2 =
        (kind.version :: payload).length := by
      rw [List.length_append, length_checksum, Nat.add_sub_cancel]
    rw [front, List.take_left, List.drop_left]
    exact if_pos ⟨rfl, rfl⟩

theorem encode_injective {kind' : Kind} (same : encode kind payload = encode kind' payload') :
    kind.version = kind'.version ∧ payload = payload' := by
  have texts := String.ofList_injective same
  have bytes := Option.some.inj ((Base32.decode_eq_some_iff.mpr rfl).symm.trans (Base32.decode_eq_some_iff.mpr texts))
  obtain ⟨bodies, _⟩ := List.append_inj' bytes ((length_checksum _).trans (length_checksum _).symm)
  exact List.cons.inj bodies

/-- Where the bits fill all characters, this is the text of the key and no other. -/
theorem keyText_iff (whole : 5 ∣ payload.length + 3) : KeyText version payload text ↔
    text = Base32.encode (version :: payload ++ checksum (version :: payload)) := by
  have full : 5 ∣ (version :: payload ++ checksum (version :: payload)).length := by
    rwa [List.length_append, length_checksum]
  rw [Base32.eq_encode_iff full]
  simp only [KeyText, checks_iff, exists_eq_left]

theorem keyText_iff_decode {text : String} (whole : 5 ∣ payload.length + 3) :
    KeyText kind.version payload text.toList ↔ decode? kind text = some payload := by
  rw [keyText_iff whole, decode_eq_some_iff, encode, ← String.toList_inj, String.toList_ofList]

/-! ## What a text tells -/

namespace KeyText

theorem letters (key : KeyText version payload text) : ∀ c ∈ text, c ∈ Base32.alphabet := by
  obtain ⟨_, _, written⟩ := key
  exact written.letters

/-- No two keys share a text. -/
theorem unique (key : KeyText version payload text)
    (written : Positional Base32.alphabet text (version' :: payload' ++ check)) (two : check.length = 2) :
    version = version' ∧ payload = payload' ∧ Checks (version :: payload) check := by
  obtain ⟨check', checks, written'⟩ := key
  obtain ⟨low, high, rfl, _⟩ := id checks
  obtain ⟨same, rfl⟩ := List.append_inj' (written'.bytes_unique written) two.symm
  obtain ⟨rfl, rfl⟩ := List.cons.inj same
  exact ⟨rfl, rfl, checks⟩

theorem length (key : KeyText version payload text) : 5 * text.length = 8 * (payload.length + 3) := by
  obtain ⟨check, ⟨low, high, rfl, _⟩, written⟩ := key
  rw [Base32.length_of_positional written, List.length_append, List.length_cons]
  rfl

end KeyText

/-- What is written for a seed begins with S. -/
theorem head_encode_seed (rest : Bytes) : (Base32.encode (0x90 :: rest)).head? = some 'S' := rfl

end AuthSigner.StrKey
