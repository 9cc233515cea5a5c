import AuthSigner.Bytes.Base32
import AuthSigner.Proofs.PositionalTexts

/-! Reading and writing base32 are inverse to each other: a text is read as the bytes whose text it is, and
only so. Where the bits fill all characters, the text is the number that the bytes are, written to the base
32. Both follow from the digits of a text, whose bits are those of the bytes and fewer than five zeros. -/
namespace AuthSigner.Base32

/-- The characters in the order of the digits that they stand for. -/
def alphabet : List Char := "ABCDEFGHIJKLMNOPQRSTUVWXYZ234567".toList

variable {digits digits' : List Nat} {text : List Char} {bytes : Bytes} {bits : List Bool}

/-! ## Digits and bits -/

theorem length_byteBits (b : UInt8) : (byteBits b).length = 8 := rfl

theorem length_digitBits (n : Nat) : (digitBits n).length = 5 := rfl

theorem digitValue_digit : ∀ n < 32, digitValue? (digit n) = some n := by decide

private theorem alphabet_digit : ∀ n < 32, digit n ∈ alphabet ∧ alphabet.idxOf (digit n) = n := by decide +kernel

/-- A character with a digit is the character of that digit. -/
theorem digit_digitValue {c : Char} {n : Nat} (value : digitValue? c = some n) : n < 32 ∧ digit n = c := by
  have code := Char.ofNat_toNat c
  simp only [digitValue?] at value
  split at value
  · cases value
    refine ⟨by omega, ?_⟩
    rw [digit, if_pos (by omega), show 65 + (c.toNat - 65) = c.toNat by omega, code]
  · split at value
    · cases value
      refine ⟨by omega, ?_⟩
      rw [digit, if_neg (by omega), show 24 + (c.toNat - 24) = c.toNat by omega, code]
    · cases value

private theorem ofBits_five : ∀ a b c d e : Bool,
    ofBits [a, b, c, d, e] < 32 ∧ digitBits (ofBits [a, b, c, d, e]) = [a, b, c, d, e] := by
  decide

theorem digitBits_ofBits (five : bits.length = 5) : ofBits bits < 32 ∧ digitBits (ofBits bits) = bits := by
  obtain ⟨a, four, rfl⟩ := List.exists_cons_of_length_eq_add_one five
  obtain ⟨b, c, d, e, rfl⟩ := List.length_eq_four.mp (Nat.succ.inj five)
  exact ofBits_five a b c d e

private theorem byteBits_ofBits : ∀ a b c d e f g h : Bool,
    byteBits (UInt8.ofNat (ofBits [a, b, c, d, e, f, g, h])) = [a, b, c, d, e, f, g, h] := by
  decide +kernel

private theorem byte_of_bits : ∀ n < 256, ofBits (byteBits (UInt8.ofNat n)) = n ∧
    numeral 2 ((byteBits (UInt8.ofNat n)).map Bool.toNat) = n := by
  decide +kernel

private theorem numeral_digitBits : ∀ n < 32, numeral 2 ((digitBits n).map Bool.toNat) = n := by decide +kernel

theorem ofBits_byteBits (b : UInt8) : UInt8.ofNat (ofBits (byteBits b)) = b := by
  have same := (byte_of_bits b.toNat b.toNat_lt).1
  rw [UInt8.ofNat_toNat] at same
  rw [same, UInt8.ofNat_toNat]

/-- The bits of bytes are their number to the base 2. -/
theorem numeral_of_bytes (bytes : Bytes) :
    numeral 2 ((bytes.flatMap byteBits).map Bool.toNat) = ofBigEndian bytes := by
  rw [List.map_flatMap, ofBigEndian_eq]
  refine numeral_flatMap (fun b => (List.length_map Bool.toNat).trans (length_byteBits b)) fun b _ => ?_
  have same := (byte_of_bits b.toNat b.toNat_lt).2
  rwa [UInt8.ofNat_toNat] at same

/-- The bits of digits are their number to the base 2. -/
theorem numeral_of_digits (small : ∀ d ∈ digits, d < 32) :
    numeral 2 ((digits.flatMap digitBits).map Bool.toNat) = numeral 32 digits := by
  have told : ∀ d ∈ digits, numeral 2 ((digitBits d).map Bool.toNat) = id d :=
    fun d member => numeral_digitBits d (small d member)
  rw [List.map_flatMap, numeral_flatMap (fun d => (List.length_map Bool.toNat).trans (length_digitBits d)) told,
    List.map_id]
  rfl

theorem digits_of_bits (small : ∀ d ∈ digits, d < 32) (small' : ∀ d ∈ digits', d < 32)
    (same : digits.flatMap digitBits = digits'.flatMap digitBits) : digits = digits' := by
  have lengths := congrArg List.length same
  rw [length_flatMap_of_block length_digitBits, length_flatMap_of_block length_digitBits] at lengths
  refine numeral_injective (by decide) (by omega) small small' ?_
  rw [← numeral_of_digits small, ← numeral_of_digits small', same]

/-! ## Texts and their digits -/

theorem digits_read : text.mapM digitValue? = some digits ↔ (∀ d ∈ digits, d < 32) ∧ text = digits.map digit := by
  induction text generalizing digits with
  | nil =>
    rw [List.mapM_nil]
    constructor
    · intro read
      cases read
      exact ⟨List.forall_mem_nil _, rfl⟩
    · rintro ⟨_, empty⟩
      rw [List.map_eq_nil_iff.mp empty.symm]
      rfl
  | cons c rest ih =>
    simp only [List.mapM_cons, bind, pure, Option.bind_eq_some_iff, Option.some.injEq]
    constructor
    · rintro ⟨d, value, later, read, rfl⟩
      obtain ⟨small, rfl⟩ := digit_digitValue value
      obtain ⟨smalls, rfl⟩ := ih.mp read
      exact ⟨List.forall_mem_cons.mpr ⟨small, smalls⟩, rfl⟩
    · rintro ⟨small, spelt⟩
      obtain ⟨d, later, rfl, rfl, rest⟩ := List.map_eq_cons_iff.mp spelt.symm
      rw [List.forall_mem_cons] at small
      exact ⟨d, digitValue_digit d small.1, later, ih.mpr ⟨small.2, rest.symm⟩, rfl⟩

private theorem lt_five (short : ∀ a b c d e rest, bits = a :: b :: c :: d :: e :: rest → False) :
    bits.length < 5 := by
  rcases bits with _ | ⟨a, _ | ⟨b, _ | ⟨c, _ | ⟨d, _ | ⟨e, rest⟩⟩⟩⟩⟩
  · simp
  · simp
  · simp
  · simp
  · simp
  · exact (short a b c d e rest rfl).elim

/-- What is written has the given bits, and fewer than five zeros at its end. -/
theorem encodeBits_digits (bits : List Bool) : ∃ (digits : List Nat) (k : Nat), k < 5 ∧ (∀ d ∈ digits, d < 32) ∧
    encodeBits bits = digits.map digit ∧ digits.flatMap digitBits = bits ++ List.replicate k false := by
  induction bits using encodeBits.induct with
  | case1 a b c d e rest ih =>
    obtain ⟨digits, k, few, small, written, spelt⟩ := ih
    obtain ⟨bound, back⟩ := ofBits_five a b c d e
    refine ⟨ofBits [a, b, c, d, e] :: digits, k, few, List.forall_mem_cons.mpr ⟨bound, small⟩, ?_, ?_⟩
    · rw [encodeBits, written, List.map_cons]
    · rw [List.flatMap_cons, spelt, back]
      rfl
  | case2 => exact ⟨[], 0, by decide, List.forall_mem_nil _, rfl, rfl⟩
  | case3 bits short nonempty =>
    have few := lt_five short
    have many := List.length_pos_of_ne_nil nonempty
    have five : (bits ++ List.replicate (5 - bits.length) false).length = 5 := by
      rw [List.length_append, List.length_replicate]
      omega
    obtain ⟨bound, back⟩ := digitBits_ofBits five
    refine ⟨[ofBits (bits ++ List.replicate (5 - bits.length) false)], 5 - bits.length, by omega,
      List.forall_mem_singleton.mpr bound, ?_, ?_⟩
    · rw [encodeBits]
      · rfl
      · exact short
      · exact nonempty
    · rw [List.flatMap_singleton, back]

/-- Bits are read as the bytes that they are the bits of, if fewer than five zeros are left over. -/
theorem decodeBits_eq_some_iff : decodeBits? bits = some bytes ↔
    ∃ k < 5, bits = bytes.flatMap byteBits ++ List.replicate k false := by
  induction bits using decodeBits?.induct generalizing bytes with
  | case1 a b c d e f g h rest ih =>
    simp only [decodeBits?, bind, pure, Option.bind_eq_some_iff, Option.some.injEq]
    constructor
    · rintro ⟨later, read, rfl⟩
      obtain ⟨k, few, spelt⟩ := ih.mp read
      refine ⟨k, few, ?_⟩
      rw [List.flatMap_cons, byteBits_ofBits, spelt]
      rfl
    · rintro ⟨k, few, spelt⟩
      cases bytes with
      | nil =>
        have long := congrArg List.length spelt
        simp only [List.length_cons, List.flatMap_nil, List.nil_append, List.length_replicate] at long
        omega
      | cons byte later =>
        have blocks : [a, b, c, d, e, f, g, h] ++ rest =
            byteBits byte ++ (later.flatMap byteBits ++ List.replicate k false) := by
          rwa [List.flatMap_cons, List.append_assoc] at spelt
        obtain ⟨front, back⟩ := List.append_inj blocks rfl
        refine ⟨later, ih.mpr ⟨k, few, back⟩, ?_⟩
        rw [front, ofBits_byteBits]
  | case2 bits short zeros =>
    rw [decodeBits?, if_pos zeros]
    · constructor
      · intro read
        cases read
        refine ⟨bits.length, zeros.1, List.eq_replicate_of_mem fun b member => ?_⟩
        simpa using List.all_eq_true.mp zeros.2 b member
      · rintro ⟨k, few, rfl⟩
        cases bytes with
        | nil => rfl
        | cons byte later => exact (short _ _ _ _ _ _ _ _ _ rfl).elim
    · exact short
  | case3 bits short more =>
    rw [decodeBits?, if_neg more]
    · constructor
      · intro read
        cases read
      · rintro ⟨k, few, rfl⟩
        cases bytes with
        | nil =>
          refine (more ⟨?_, ?_⟩).elim
          · rwa [List.flatMap_nil, List.nil_append, List.length_replicate]
          · simp
        | cons byte later => exact (short _ _ _ _ _ _ _ _ _ rfl).elim
    · exact short

/-! ## Whole texts -/

/-- A text is read as the bytes whose text it is, and only so. -/
theorem decode_eq_some_iff : decode? text = some bytes ↔ text = encode bytes := by
  obtain ⟨written, k, few, small, spelt, filled⟩ := encodeBits_digits (bytes.flatMap byteBits)
  have reads : decode? text = some bytes ↔ ∃ digits : List Nat, (∀ d ∈ digits, d < 32) ∧
      text = digits.map digit ∧ ∃ k < 5, digits.flatMap digitBits =
        bytes.flatMap byteBits ++ List.replicate k false := by
    simp only [decode?, bind, Option.bind_eq_some_iff, digits_read, decodeBits_eq_some_iff, and_assoc]
  rw [reads]
  constructor
  · rintro ⟨digits, small', rfl, k', few', filled'⟩
    -- the zeros fill up the same bits to a multiple of five, so there are as many
    have zeros : k' = k := by
      have length := congrArg List.length filled
      have length' := congrArg List.length filled'
      rw [length_flatMap_of_block length_digitBits, List.length_append, List.length_replicate] at length length'
      omega
    rw [encode, spelt, digits_of_bits small' small (by rw [filled', filled, zeros])]
  · rintro rfl
    exact ⟨written, small, spelt, k, few, filled⟩

/-- Where the bits fill all characters, the text is the number of the bytes. -/
theorem positional_encode (whole : 5 ∣ bytes.length) : Positional alphabet (encode bytes) bytes := by
  obtain ⟨digits, k, few, small, spelt, filled⟩ := encodeBits_digits (bytes.flatMap byteBits)
  have length := congrArg List.length filled
  rw [length_flatMap_of_block length_digitBits, List.length_append, List.length_replicate,
    length_flatMap_of_block length_byteBits] at length
  obtain rfl : k = 0 := by omega
  rw [List.replicate_zero, List.append_nil] at filled
  have same : (digits.map digit).map alphabet.idxOf = digits := by
    rw [List.map_map]
    exact (List.map_congr_left fun d member => (alphabet_digit d (small d member)).2).trans (List.map_id _)
  rw [encode, spelt]
  refine ⟨?_, ?_, ?_⟩
  · intro c member
    obtain ⟨d, listed, rfl⟩ := List.mem_map.mp member
    exact (alphabet_digit d (small d listed)).1
  · change (2 ^ 5) ^ (digits.map digit).length = (2 ^ 8) ^ bytes.length
    rw [List.length_map, ← Nat.pow_mul, ← Nat.pow_mul, length, Nat.add_zero]
  · rw [same, ← numeral_of_bytes, ← filled]
    exact (numeral_of_digits small).symm

/-- The text of such bytes is the only one that is their number. -/
theorem eq_encode_iff (whole : 5 ∣ bytes.length) : text = encode bytes ↔ Positional alphabet text bytes := by
  constructor
  · rintro rfl
    exact positional_encode whole
  · exact fun written => written.text_unique (by decide) (positional_encode whole)

/-- Such a text has eight characters for five bytes. -/
theorem length_of_positional (written : Positional alphabet text bytes) : 5 * text.length = 8 * bytes.length := by
  have size : (2 ^ 5) ^ text.length = (2 ^ 8) ^ bytes.length := written.size
  rw [← Nat.pow_mul, ← Nat.pow_mul] at size
  exact Nat.pow_right_injective (Nat.le_refl 2) size

end AuthSigner.Base32
