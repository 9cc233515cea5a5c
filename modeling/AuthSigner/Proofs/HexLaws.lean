import AuthSigner.Bytes.Hex
import AuthSigner.Proofs.PositionalTexts
import Mathlib.Data.Bool.AllAny

/-! Hexadecimal texts. A text is read exactly if, with its letters in lower case, it is the number that the
bytes are, written to the base 16 with two digits a byte. -/
namespace AuthSigner.Hex

/-- The digits in their order, in lower case. -/
def alphabet : List Char := "0123456789abcdef".toList

/-- Digits of either case that spell a byte string. -/
abbrev Spells (text : List Char) (bytes : Bytes) : Prop := Positional alphabet (text.map Char.toLower) bytes

variable {c : Char} {n : Nat} {text : List Char} {bytes : Bytes}

/-! ## Digits -/

private theorem value_code : ∀ code < 128, ∀ n < 16,
    digitValue? (Char.ofNat code) = some n ↔ (Char.ofNat code).toLower = digit n := by
  decide +kernel

private theorem digit_listed : ∀ n < 16,
    digit n ∈ alphabet ∧ alphabet.idxOf (digit n) = n ∧ (digit n).toNat < 128 := by
  decide +kernel

private theorem toLower_of_beyond (beyond : 128 ≤ c.toNat) : c.toLower = c := by
  refine dif_neg fun capital => ?_
  have last : c.toNat ≤ 90 := UInt32.le_iff_toNat_le.mp capital.2
  omega

theorem digitValue_lt (value : digitValue? c = some n) : c.toNat < 128 ∧ n < 16 := by
  simp only [digitValue?] at value
  split at value
  · cases value
    omega
  · split at value
    · cases value
      omega
    · split at value
      · cases value
        omega
      · cases value

/-- A character has a value exactly if its lower case is the digit of that value. -/
theorem digitValue_eq_some_iff : digitValue? c = some n ↔ n < 16 ∧ c.toLower = digit n := by
  have coded := value_code c.toNat
  rw [Char.ofNat_toNat] at coded
  constructor
  · intro value
    obtain ⟨ascii, small⟩ := digitValue_lt value
    exact ⟨small, (coded ascii n small).mp value⟩
  · rintro ⟨small, lower⟩
    have ascii : c.toNat < 128 := by
      refine Nat.lt_of_not_le fun beyond => ?_
      rw [toLower_of_beyond beyond] at lower
      exact Nat.not_lt.mpr beyond (lower ▸ (digit_listed n small).2.2)
    exact (coded ascii n small).mpr lower

/-! ## Whole texts -/

theorem length_encodeChars (bytes : Bytes) : (encodeChars bytes).length = 2 * bytes.length := by
  have two : ∀ b : UInt8, [digit (b.toNat / 16), digit (b.toNat % 16)].length = 2 := fun _ => rfl
  exact length_flatMap_of_block two bytes

/-- A text is read as the bytes whose text it is, once it is in lower case. -/
theorem decodeChars_eq_some_iff : decodeChars? text = some bytes ↔ text.map Char.toLower = encodeChars bytes := by
  induction text using decodeChars?.induct generalizing bytes with
  | case1 =>
    rw [decodeChars?, Option.some.injEq]
    constructor
    · rintro rfl
      rfl
    · intro same
      cases bytes with
      | nil => rfl
      | cons b rest => cases same
  | case2 c =>
    rw [decodeChars?]
    constructor
    · intro read
      cases read
    · intro same
      cases bytes with
      | nil => cases same
      | cons b rest => exact absurd (List.cons.inj same).2.symm (List.cons_ne_nil _ _)
  | case3 high low rest ih =>
    simp only [decodeChars?, bind, pure, Option.bind_eq_some_iff, Option.some.injEq, digitValue_eq_some_iff]
    constructor
    · rintro ⟨h, ⟨highSmall, highDigit⟩, l, ⟨lowSmall, lowDigit⟩, later, read, rfl⟩
      -- the two digits are the halves of the byte
      have byte : (UInt8.ofNat (16 * h + l)).toNat = 16 * h + l :=
        UInt8.toNat_ofNat_of_lt (show 16 * h + l < 256 by omega)
      have halves : (16 * h + l) / 16 = h ∧ (16 * h + l) % 16 = l := by omega
      rw [List.map_cons, List.map_cons, highDigit, lowDigit, ih.mp read, encodeChars, encodeChars, List.flatMap_cons,
        byte, halves.1, halves.2]
      rfl
    · intro same
      cases bytes with
      | nil => cases same
      | cons b later =>
        obtain ⟨highDigit, same⟩ := List.cons.inj same
        obtain ⟨lowDigit, same⟩ := List.cons.inj same
        have bound := b.toNat_lt
        refine ⟨b.toNat / 16, ⟨by omega, highDigit⟩, b.toNat % 16, ⟨by omega, lowDigit⟩, later, ih.mpr same, ?_⟩
        rw [Nat.div_add_mod, UInt8.ofNat_toNat]

/-- What is written is the number of the bytes. -/
theorem positional_encodeChars (bytes : Bytes) : Positional alphabet (encodeChars bytes) bytes := by
  have halves : ∀ b : UInt8, b.toNat / 16 < 16 ∧ b.toNat % 16 < 16 := by
    intro b
    have bound := b.toNat_lt
    omega
  refine ⟨?_, ?_, ?_⟩
  · intro c member
    obtain ⟨b, _, digits⟩ := List.mem_flatMap.mp member
    rcases List.mem_pair.mp digits with rfl | rfl
    · exact (digit_listed _ (halves b).1).1
    · exact (digit_listed _ (halves b).2).1
  · change 16 ^ (encodeChars bytes).length = (16 ^ 2) ^ bytes.length
    rw [length_encodeChars, Nat.pow_mul]
  · have digits : (encodeChars bytes).map alphabet.idxOf = bytes.flatMap fun b => [b.toNat / 16, b.toNat % 16] := by
      rw [encodeChars, List.map_flatMap]
      refine List.flatMap_congr fun b _ => ?_
      rw [List.map_cons, List.map_singleton, (digit_listed _ (halves b).1).2.1, (digit_listed _ (halves b).2).2.1]
    have two : ∀ b : UInt8, [b.toNat / 16, b.toNat % 16].length = 2 := fun _ => rfl
    have told : ∀ b ∈ bytes, numeral 16 [b.toNat / 16, b.toNat % 16] = b.toNat := by
      intro b _
      rw [numeral_cons, numeral_cons, numeral_nil, List.length_singleton, List.length_nil]
      omega
    rw [digits, ofBigEndian_eq]
    exact numeral_flatMap two told

theorem spells_encodeChars (bytes : Bytes) : Spells (encodeChars bytes) bytes := by
  have lower : ∀ c ∈ alphabet, c.toLower = c := List.all_iff_forall_prop.mp (by decide)
  have written := positional_encodeChars bytes
  have same : (encodeChars bytes).map Char.toLower = encodeChars bytes :=
    (List.map_congr_left fun c member => lower c (written.letters c member)).trans (List.map_id _)
  rwa [Spells, same]

/-- A text is read as the bytes that it spells. -/
theorem decode_eq_some_iff_spells : decodeChars? text = some bytes ↔ Spells text bytes := by
  rw [decodeChars_eq_some_iff]
  constructor
  · intro same
    rw [Spells, same]
    exact positional_encodeChars bytes
  · exact fun spelt => spelt.text_unique (by decide) (positional_encodeChars bytes)

theorem Spells.length (spelt : Spells text bytes) : text.length = 2 * bytes.length := by
  have size : 16 ^ text.length = (16 ^ 2) ^ bytes.length := by
    have size := Positional.size spelt
    rwa [List.length_map] at size
  rw [← Nat.pow_mul] at size
  exact Nat.pow_right_injective (by decide) size

end AuthSigner.Hex
