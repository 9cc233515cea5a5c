import AuthSigner.Proofs.SpacedText
import AuthSigner.Proofs.SteadyFormats

/-! Texts that are cut off or run on. The bytes that are read decide alone what is wrong with
them, so such an error stays whatever follows. And no text of an envelope is the beginning of
another: cut off, the envelope lacks input; with more behind it, either bytes are left or the
text is no base64 any more. -/
namespace AuthSigner
open Xdr

namespace Base64

/-- Whole groups, none of which is padded. -/
structure Unpadded (text : Bytes) : Prop where
  whole : 4 ∣ text.length
  digits : ∀ ch ∈ text, (digitValue? ch).isSome = true

/-- Four digits are a good group, and its last character is no padding. -/
theorem group_of_digits {a b c d : UInt8} (first : (digitValue? a).isSome = true)
    (second : (digitValue? b).isSome = true) (third : (digitValue? c).isSome = true)
    (fourth : (digitValue? d).isSome = true) : d ≠ pad ∧ ∃ bytes, group? a b c d = some bytes := by
  obtain ⟨w, hw⟩ := Option.isSome_iff_exists.mp first
  obtain ⟨x, hx⟩ := Option.isSome_iff_exists.mp second
  obtain ⟨y, hy⟩ := Option.isSome_iff_exists.mp third
  obtain ⟨z, hz⟩ := Option.isSome_iff_exists.mp fourth
  have full : d ≠ pad := by
    rintro rfl
    cases hz
  refine ⟨full, Option.isSome_iff_exists.mp ?_⟩
  simp only [group?, hw, hx, hy, hz, full, bind, Option.bind, and_false, ↓reduceIte, Option.isSome_some]

/-- A text of less than a group spells nothing. -/
theorem decode_incomplete {text : Bytes} (written : text ≠ [])
    (short : ∀ a b c d rest, text ≠ a :: b :: c :: d :: rest) :
    decode text = ⟨[], false⟩ ∧ ¬ 4 ∣ text.length := by
  rcases text with _ | ⟨a, _ | ⟨b, _ | ⟨c, _ | ⟨d, rest⟩⟩⟩⟩
  · exact absurd rfl written
  · exact ⟨rfl, (by decide : ¬ 4 ∣ 1)⟩
  · exact ⟨rfl, (by decide : ¬ 4 ∣ 2)⟩
  · exact ⟨rfl, (by decide : ¬ 4 ∣ 3)⟩
  · exact absurd rfl (short a b c d rest)

/-- Unpadded groups spell their bytes in front of whatever follows. -/
theorem decode_unpadded_append {text : Bytes} (unpadded : Unpadded text) (more : Bytes) :
    decode (text ++ more) = ⟨(decode text).bytes ++ (decode more).bytes, (decode more).intact⟩ := by
  induction text using decode.induct with
  | case1 => rfl
  | case2 a b c d rest bad =>
    have digits := unpadded.digits
    simp only [List.forall_mem_cons] at digits
    obtain ⟨_, bytes, good⟩ := group_of_digits digits.1 digits.2.1 digits.2.2.1 digits.2.2.2.1
    rw [bad] at good
    cases good
  | case3 a b c rest bytes good =>
    have digits := unpadded.digits
    simp only [List.forall_mem_cons] at digits
    cases digits.2.2.2.1
  | case4 a b c d rest bytes good full ih =>
    obtain ⟨whole, digits⟩ := unpadded
    simp only [List.forall_mem_cons] at digits
    have later : Unpadded rest := by
      refine ⟨?_, digits.2.2.2.2⟩
      simp only [List.length_cons] at whole
      omega
    simp only [List.cons_append, decode, good, full, ↓reduceIte, ih later, List.append_assoc]
  | case5 text short long =>
    exact absurd unpadded.whole (decode_incomplete short long).2

theorem bytes_ne_nil {text bytes : Bytes} (read : decode text = ⟨bytes, true⟩) (written : text ≠ []) :
    bytes ≠ [] := by
  rintro rfl
  exact written (encode_of_decode read).symm

/-- A text that is cut off spells the front of the bytes. No group is bad, but the last one
may be incomplete. -/
theorem decode_front {front back bytes : Bytes} (read : decode (front ++ back) = ⟨bytes, true⟩)
    (cut : back ≠ []) :
    ∃ kept lost, decode front = ⟨kept, decide (4 ∣ front.length)⟩ ∧ bytes = kept ++ lost ∧ lost ≠ [] := by
  induction front using decode.induct generalizing bytes with
  | case1 => exact ⟨[], bytes, rfl, rfl, bytes_ne_nil read cut⟩
  | case2 a b c d rest bad =>
    simp only [List.cons_append, decode, bad, Spelled.mk.injEq, Bool.false_eq_true, and_false] at read
  | case3 a b c rest group good =>
    simp only [List.cons_append, decode, good, ↓reduceIte, Spelled.mk.injEq, List.isEmpty_iff,
      List.append_eq_nil_iff] at read
    exact absurd read.2.2 cut
  | case4 a b c d rest group good full ih =>
    simp only [List.cons_append, decode, good, full, ↓reduceIte, Spelled.mk.injEq] at read
    obtain ⟨rfl, intact⟩ := read
    obtain ⟨kept, lost, front, all, left⟩ := ih (by rw [← intact])
    have same : 4 ∣ (a :: b :: c :: d :: rest).length ↔ 4 ∣ rest.length := by
      simp only [List.length_cons]
      omega
    refine ⟨group ++ kept, lost, ?_, by rw [all, List.append_assoc], left⟩
    simp only [decode, good, full, ↓reduceIte, front, same]
  | case5 text short long =>
    obtain ⟨spelled, odd⟩ := decode_incomplete short long
    have written : text ++ back ≠ [] := fun none => cut (List.append_eq_nil_iff.mp none).2
    exact ⟨[], bytes, by rw [spelled, decide_eq_false odd], rfl, bytes_ne_nil read written⟩

/-- A text with more behind it spells its bytes and more, or it has a bad group. -/
theorem decode_longer {text more bytes : Bytes} (read : decode text = ⟨bytes, true⟩) (longer : more ≠ []) :
    ∃ extra intact, decode (text ++ more) = ⟨bytes ++ extra, intact⟩ ∧ (extra = [] → intact = false) := by
  induction text using decode.induct generalizing bytes with
  | case1 =>
    cases read
    refine ⟨(decode more).bytes, (decode more).intact, rfl, ?_⟩
    intro none
    cases whole : (decode more).intact with
    | false => rfl
    | true => exact absurd none (bytes_ne_nil (by rw [← whole]) longer)
  | case2 a b c d rest bad =>
    simp only [decode, bad, Spelled.mk.injEq, Bool.false_eq_true, and_false] at read
  | case3 a b c rest group good =>
    simp only [decode, good, ↓reduceIte, Spelled.mk.injEq, List.isEmpty_iff] at read
    obtain ⟨rfl, rfl⟩ := read
    refine ⟨[], false, ?_, fun _ => rfl⟩
    simp only [List.cons_append, List.nil_append, decode, good, ↓reduceIte, List.append_nil,
      Spelled.mk.injEq, true_and, List.isEmpty_eq_false_iff]
    exact longer
  | case4 a b c d rest group good full ih =>
    simp only [decode, good, full, ↓reduceIte, Spelled.mk.injEq] at read
    obtain ⟨rfl, intact⟩ := read
    obtain ⟨extra, damage, back, bad⟩ := ih (by rw [← intact])
    refine ⟨extra, damage, ?_, bad⟩
    simp only [List.cons_append, decode, good, full, ↓reduceIte, back, List.append_assoc]
  | case5 text short long =>
    rw [(decode_incomplete short long).1] at read
    cases read

end Base64

namespace Xdr

/-- The error is one of the value, and neither of its text nor of where it ends. -/
def DecodeError.Final (e : DecodeError) : Prop :=
  e = .invalid ∨ e = .lengthExceedsMax ∨ e = .nonZeroPadding

theorem ReadError.early_of_final {e : ReadError} {intact : Bool} (final : (e.ofText intact).Final) :
    e ≠ .truncated := by
  rintro rfl
  cases intact <;> rcases final with same | same | same <;> cases same

/-- Whether the text is intact matters only where its bytes run out. -/
theorem ReadError.ofText_of_early {e : ReadError} (early : e ≠ .truncated) (intact : Bool) :
    e.ofText intact = e.ofText true := by
  cases e with
  | truncated => exact absurd rfl early
  | _ => rfl

namespace Codec

variable {α : Type} {c : Codec α} {bytes more : Bytes} {e : DecodeError}

/-- The bytes settle that they are no value: reading them fails, other than by their end, or
leaves some of them. -/
inductive Settled (c : Codec α) (bytes : Bytes) : DecodeError → Prop where
  | failed {e : ReadError} (read : c.readFront bytes = .error e) (early : e ≠ .truncated) :
    Settled c bytes (e.ofText true)
  | surplus {x : α} {rest : Bytes} (read : c.readFront bytes = .ok (x, rest)) (left : rest ≠ []) :
    Settled c bytes .invalid

/-! ## What a text comes to -/

/-- A text fails with an error of its value exactly if the bytes it spells settle that. -/
theorem ofText_eq_final_iff {text : Bytes} (final : e.Final) :
    c.ofText text = .error e ↔ c.Settled (Base64.decode text.solid).bytes e := by
  constructor
  · intro failed
    cases read : c.readFront (Base64.decode text.solid).bytes with
    | error r =>
      rw [ofText_of_error read] at failed
      cases failed
      have early := ReadError.early_of_final final
      rw [ReadError.ofText_of_early early]
      exact .failed read early
    | ok taken =>
      obtain ⟨x, rest⟩ := taken
      by_cases none : rest = []
      · subst none
        rw [ofText_of_all read] at failed
        split at failed
        · cases failed
        · cases failed
          rcases final with same | same | same <;> cases same
      · rw [ofText_of_rest read none] at failed
        cases failed
        exact .surplus read none
  · intro settled
    cases settled with
    | failed read early => rw [ofText_of_error read, ReadError.ofText_of_early early]
    | surplus read left => exact ofText_of_rest read left

/-! ## More input and less -/

variable [steady : ∀ limit, c.Steady limit]

/-- Reading the front of more bytes extends reading the front of fewer. -/
theorem readFront_extended (c : Codec α) [steady : ∀ limit, c.Steady limit] (bytes more : Bytes) :
    (c.read bytes.length).Extended (c.read (bytes ++ more).length) :=
  (steady _).extended (by rw [List.length_append]; omega) (Nat.le_refl _)

/-- What is settled stays so when more bytes follow. -/
theorem Settled.append (settled : c.Settled bytes e) (more : Bytes) : c.Settled (bytes ++ more) e := by
  cases settled with
  | failed read early => exact .failed ((c.readFront_extended bytes more).failure read early more) early
  | surplus read left =>
    refine .surplus ((c.readFront_extended bytes more).value read more) ?_
    intro none
    exact left (List.append_eq_nil_iff.mp none).1

/-- All the bytes that a value was read from are needed for it. -/
theorem readFront_of_fewer {kept lost : Bytes} {x : α} (read : c.readFront (kept ++ lost) = .ok (x, []))
    (cut : lost ≠ []) : c.readFront kept = .error .truncated := by
  have longer := c.readFront_extended kept lost
  cases partly : c.readFront kept with
  | error r =>
    by_cases early : r = .truncated
    · rw [early]
    · have failed := (longer.failure partly early lost).symm.trans read
      cases failed
  | ok taken =>
    obtain ⟨y, rest⟩ := taken
    have more := (longer.value partly lost).symm.trans read
    simp only [Except.ok.injEq, Prod.mk.injEq, List.append_eq_nil_iff] at more
    exact absurd more.2.2 cut

/-- A text that is cut off lacks input, or its last group is incomplete. -/
theorem ofText_of_front {text whole : Bytes} {x : α} (accepted : c.ofText whole = .ok x)
    (front : text.solid <+: whole.solid) (cut : text.solid ≠ whole.solid) :
    c.ofText text = .error (if 4 ∣ text.solid.length then .unexpectedEnd else .malformedText) := by
  obtain ⟨bytes, spelled, read⟩ := read_of_ofText accepted
  obtain ⟨back, joined⟩ := front
  have missing : back ≠ [] := by
    rintro rfl
    rw [List.append_nil] at joined
    exact cut joined
  have decoded : Base64.decode (text.solid ++ back) = ⟨bytes, true⟩ := by
    rw [joined, spelled, Base64.decode_encode]
  obtain ⟨kept, lost, fewer, rfl, left⟩ := Base64.decode_front decoded missing
  have short : c.readFront (Base64.decode text.solid).bytes = .error .truncated := by
    rw [fewer]
    exact readFront_of_fewer read left
  rw [ofText_of_error short, fewer]
  simp only [ReadError.ofText, decide_eq_true_eq]

/-- A text with more behind it is none, or leaves bytes behind its value. -/
theorem ofText_of_longer {text whole : Bytes} {x : α} (accepted : c.ofText whole = .ok x)
    (front : whole.solid <+: text.solid) (longer : text.solid ≠ whole.solid) :
    c.ofText text = .error .invalid ∨ c.ofText text = .error .malformedText := by
  obtain ⟨bytes, spelled, read⟩ := read_of_ofText accepted
  obtain ⟨back, joined⟩ := front
  have added : back ≠ [] := by
    rintro rfl
    rw [List.append_nil] at joined
    exact longer joined.symm
  have decoded : Base64.decode whole.solid = ⟨bytes, true⟩ := by rw [spelled, Base64.decode_encode]
  obtain ⟨extra, intact, more, damaged⟩ := Base64.decode_longer decoded added
  rw [joined] at more
  have taken : c.readFront (Base64.decode text.solid).bytes = .ok (x, extra) := by
    rw [more]
    exact (c.readFront_extended bytes extra).value read extra
  by_cases none : extra = []
  · subst none
    right
    rw [ofText_of_all taken, more, damaged rfl]
    rfl
  · left
    exact ofText_of_rest taken none

end Codec
end Xdr

/-! ## Envelopes -/

/-- Only the bytes that are not white space matter. -/
theorem ofText_congr {text text' : Bytes} (same : text'.solid = text.solid) :
    Envelope.ofText text' = Envelope.ofText text := by
  unfold Envelope.ofText Codec.ofText
  rw [same]

/-- Texts of envelopes are self-delimiting, and errors in what they spell are final. Where a text of
whole unpadded groups fails with an error of the value, so does every text that it begins. Where a
text is accepted, every text whose solid bytes are a proper beginning of its own is rejected for its
end, or for its base64 if it ends inside a group; and every text whose solid bytes properly
continue its own is rejected for the bytes that are left, or for its base64. White space anywhere
changes no answer. -/
theorem signed_texts_self_delimiting :
    (∀ (u v : Bytes) (cause : DecodeError), Base64.Unpadded u.solid → cause.Final →
      Envelope.ofText u = .error (.malformed cause) →
      Envelope.ofText (u ++ v) = .error (.malformed cause)) ∧
    (∀ (b : Bytes) (envelope : Envelope), Envelope.ofText b = .ok envelope → ∀ text : Bytes,
      (text.solid <+: b.solid → text.solid ≠ b.solid → Envelope.ofText text =
        .error (.malformed (if 4 ∣ text.solid.length then .unexpectedEnd else .malformedText))) ∧
      (b.solid <+: text.solid → text.solid ≠ b.solid →
        Envelope.ofText text = .error (.malformed .invalid) ∨
          Envelope.ofText text = .error (.malformed .malformedText))) ∧
    ∀ text spaced : Bytes, Spaced text spaced → Envelope.ofText spaced = Envelope.ofText text := by
  refine ⟨?_, ?_, ?_⟩
  · intro u v cause unpadded final failed
    have settled := (Codec.ofText_eq_final_iff final).mp (ofText_eq_error.mp failed)
    refine ofText_eq_error.mpr ((Codec.ofText_eq_final_iff final).mpr ?_)
    have solid : (u ++ v).solid = u.solid ++ v.solid := List.filter_append ..
    rw [solid, Base64.decode_unpadded_append unpadded]
    exact settled.append _
  · intro b envelope accepted text
    have accepted := ofText_eq_ok.mp accepted
    constructor
    · intro front cut
      exact ofText_eq_error.mpr (Codec.ofText_of_front accepted front cut)
    · intro front longer
      exact (Codec.ofText_of_longer accepted front longer).imp ofText_eq_error.mpr ofText_eq_error.mpr
  · intro text spaced put
    exact ofText_congr put.solid_eq

/-- The beginning of an envelope whose source account is of no kind that there is, with a line feed
inside a group. -/
def Sample.misfit : Bytes := [65, 65, 65, 65, 65, 103, 10, 65, 65, 65, 65, 99, 65]

theorem signed_texts_self_delimiting_single :
    Base64.Unpadded Sample.misfit.solid ∧
      Envelope.ofText Sample.misfit = .error (.malformed .invalid) ∧
      Envelope.ofText (Sample.misfit ++ [42, 61]) = .error (.malformed .invalid) ∧
      Envelope.ofText Sample.text = .ok (.v1 Sample.single) ∧
      Envelope.ofText (Sample.text.take 100) = .error (.malformed .unexpectedEnd) ∧
      Envelope.ofText (Sample.text.take 101) = .error (.malformed .malformedText) ∧
      (Envelope.ofText (Sample.text ++ [65]) = .error (.malformed .invalid) ∨
        Envelope.ofText (Sample.text ++ [65]) = .error (.malformed .malformedText)) ∧
      Spaced Sample.text (Sample.text ++ [10]) ∧
      Envelope.ofText (Sample.text ++ [10]) = .ok (.v1 Sample.single) := by
  obtain ⟨final, accepted, blank⟩ := signed_texts_self_delimiting
  have unpadded : Base64.Unpadded Sample.misfit.solid := ⟨by decide, by decide +kernel⟩
  have read : Envelope.codec.readFront (Base64.decode Sample.misfit.solid).bytes = .error .invalid := by
    have spelled : Base64.decode Sample.misfit.solid = ⟨[0, 0, 0, 2, 0, 0, 0, 7, 0], true⟩ := by decide
    rw [spelled]
    rfl
  have failed : Envelope.ofText Sample.misfit = .error (.malformed .invalid) :=
    ofText_eq_error.mpr (Codec.ofText_of_error read)
  have around := accepted Sample.text _ Sample.text_decoded
  have whole : Sample.text.solid = Sample.text := Base64.solid_encode _
  have put : Spaced Sample.text (Sample.text ++ [10]) := by
    have solid : (Sample.text ++ [10]).solid = Sample.text := by
      rw [Bytes.solid, List.filter_append]
      exact (List.append_nil _).trans whole
    have spaced := Spaced.of_solid (Sample.text ++ [10])
    rw [solid] at spaced
    exact spaced
  refine ⟨unpadded, failed, final _ _ _ unpadded (.inl rfl) failed, Sample.text_decoded, ?_, ?_, ?_, put, ?_⟩
  · exact (around _).1 (by decide +kernel) (by decide +kernel)
  · exact (around _).1 (by decide +kernel) (by decide +kernel)
  · exact (around _).2 (by decide +kernel) (by decide +kernel)
  · exact (blank _ _ put).trans Sample.text_decoded

end AuthSigner
