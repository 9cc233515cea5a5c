import AuthSigner.Bytes.Base64
import AuthSigner.Bytes.Blank

/-! What base64 writes, it reads back, and what it writes has no white space and is
ASCII, so neither the filter of white space nor the encoding of the text changes it. -/
namespace AuthSigner.Base64

theorem digitValue_digit : ∀ n < 64, digitValue? (digit n) = some n := by decide

theorem digit_ne_pad : ∀ n < 64, digit n ≠ pad := by decide

private theorem digit_plain : ∀ n < 64, isBlank (digit n) = false ∧ (digit n).toNat < 128 := by decide

theorem ofNat_eq {n : Nat} {b : UInt8} (same : n = b.toNat) : UInt8.ofNat n = b := by
  rw [same, UInt8.ofNat_toNat]

/-! ## One group -/

private theorem group_of_one (a : UInt8) :
    group? (digit (a.toNat / 4)) (digit (a.toNat % 4 * 16)) pad pad = some [a] := by
  have small := a.toNat_lt
  have first : UInt8.ofNat (a.toNat / 4 * 4 + a.toNat % 4 * 16 / 16) = a := ofNat_eq (by omega)
  have spare : a.toNat % 4 * 16 % 16 = 0 := by omega
  simp only [group?, digitValue_digit (a.toNat / 4) (by omega),
    digitValue_digit (a.toNat % 4 * 16) (by omega), bind, Option.bind, and_self, ↓reduceIte, first, spare]

private theorem group_of_two (a b : UInt8) :
    group? (digit (a.toNat / 4)) (digit (a.toNat % 4 * 16 + b.toNat / 16)) (digit (b.toNat % 16 * 4)) pad =
      some [a, b] := by
  have small := a.toNat_lt
  have small' := b.toNat_lt
  have first : UInt8.ofNat (a.toNat / 4 * 4 + (a.toNat % 4 * 16 + b.toNat / 16) / 16) = a :=
    ofNat_eq (by omega)
  have second : UInt8.ofNat ((a.toNat % 4 * 16 + b.toNat / 16) % 16 * 16 + b.toNat % 16 * 4 / 4) = b :=
    ofNat_eq (by omega)
  have spare : b.toNat % 16 * 4 % 4 = 0 := by omega
  simp only [group?, digitValue_digit (a.toNat / 4) (by omega),
    digitValue_digit (a.toNat % 4 * 16 + b.toNat / 16) (by omega),
    digitValue_digit (b.toNat % 16 * 4) (by omega), digit_ne_pad (b.toNat % 16 * 4) (by omega),
    bind, Option.bind, false_and, ↓reduceIte, first, second, spare]

private theorem group_of_three (a b c : UInt8) :
    group? (digit (a.toNat / 4)) (digit (a.toNat % 4 * 16 + b.toNat / 16))
      (digit (b.toNat % 16 * 4 + c.toNat / 64)) (digit (c.toNat % 64)) = some [a, b, c] := by
  have small := a.toNat_lt
  have small' := b.toNat_lt
  have small'' := c.toNat_lt
  have first : UInt8.ofNat (a.toNat / 4 * 4 + (a.toNat % 4 * 16 + b.toNat / 16) / 16) = a :=
    ofNat_eq (by omega)
  have second : UInt8.ofNat ((a.toNat % 4 * 16 + b.toNat / 16) % 16 * 16 +
      (b.toNat % 16 * 4 + c.toNat / 64) / 4) = b := ofNat_eq (by omega)
  have third : UInt8.ofNat ((b.toNat % 16 * 4 + c.toNat / 64) % 4 * 64 + c.toNat % 64) = c :=
    ofNat_eq (by omega)
  simp only [group?, digitValue_digit (a.toNat / 4) (by omega),
    digitValue_digit (a.toNat % 4 * 16 + b.toNat / 16) (by omega),
    digitValue_digit (b.toNat % 16 * 4 + c.toNat / 64) (by omega),
    digitValue_digit (c.toNat % 64) (by omega), digit_ne_pad (b.toNat % 16 * 4 + c.toNat / 64) (by omega),
    digit_ne_pad (c.toNat % 64) (by omega), bind, Option.bind, false_and, ↓reduceIte, first, second, third]

/-! ## Whole texts -/

/-- Reading a written text gives its bytes and finds no bad group. -/
theorem decode_encode (bytes : Bytes) : decode (encode bytes) = ⟨bytes, true⟩ := by
  induction bytes using encode.induct with
  | case1 => rfl
  | case2 a => simp only [encode, decode, group_of_one, ↓reduceIte, List.isEmpty_nil]
  | case3 a b => simp only [encode, decode, group_of_two, ↓reduceIte, List.isEmpty_nil]
  | case4 a b c rest ih =>
    have small := c.toNat_lt
    simp only [encode, decode, group_of_three, digit_ne_pad (c.toNat % 64) (by omega), ↓reduceIte, ih]
    rfl

/-- Every character of a written text is ASCII and no white space. -/
theorem encode_plain (bytes : Bytes) : ∀ ch ∈ encode bytes, isBlank ch = false ∧ ch.toNat < 128 := by
  have padding : isBlank pad = false ∧ pad.toNat < 128 := by decide
  induction bytes using encode.induct with
  | case1 => exact fun _ none => nomatch none
  | case2 a =>
    have small := a.toNat_lt
    simp only [encode, List.forall_mem_cons]
    exact ⟨digit_plain _ (by omega), digit_plain _ (by omega), padding, padding, nofun⟩
  | case3 a b =>
    have small := a.toNat_lt
    have small' := b.toNat_lt
    simp only [encode, List.forall_mem_cons]
    exact ⟨digit_plain _ (by omega), digit_plain _ (by omega), digit_plain _ (by omega), padding, nofun⟩
  | case4 a b c rest ih =>
    have small := a.toNat_lt
    have small' := b.toNat_lt
    have small'' := c.toNat_lt
    simp only [encode, List.forall_mem_cons]
    exact ⟨digit_plain _ (by omega), digit_plain _ (by omega), digit_plain _ (by omega),
      digit_plain _ (by omega), ih⟩

theorem solid_encode (bytes : Bytes) : (encode bytes).solid = encode bytes := by
  refine List.filter_eq_self.mpr fun ch member => ?_
  rw [(encode_plain bytes ch member).1]
  rfl

/-! ## Texts that are read -/

/-- A character with a digit is the character of that digit. -/
theorem digit_digitValue {c : UInt8} {n : Nat} (value : digitValue? c = some n) : n < 64 ∧ digit n = c := by
  have small := c.toNat_lt
  simp only [digitValue?] at value
  split at value
  · cases value
    refine ⟨by omega, ?_⟩
    rw [digit, if_pos (by omega)]
    exact ofNat_eq (by omega)
  · split at value
    · cases value
      refine ⟨by omega, ?_⟩
      rw [digit, if_neg (by omega), if_pos (by omega)]
      exact ofNat_eq (by omega)
    · split at value
      · cases value
        refine ⟨by omega, ?_⟩
        rw [digit, if_neg (by omega), if_neg (by omega), if_pos (by omega)]
        exact ofNat_eq (by omega)
      · split at value
        · rename_i plus
          cases value
          exact ⟨by decide, (UInt8.toNat_inj.mp plus).symm⟩
        · split at value
          · rename_i slash
            cases value
            exact ⟨by decide, (UInt8.toNat_inj.mp slash).symm⟩
          · cases value

private theorem encode_one {w x : Nat} (hw : w < 64) (hx : x < 64) (spare : x % 16 = 0) :
    encode [UInt8.ofNat (w * 4 + x / 16)] = [digit w, digit x, pad, pad] := by
  have first : (UInt8.ofNat (w * 4 + x / 16)).toNat = w * 4 + x / 16 :=
    UInt8.toNat_ofNat_of_lt' (show _ < 256 by omega)
  have high : (w * 4 + x / 16) / 4 = w := by omega
  have low : (w * 4 + x / 16) % 4 * 16 = x := by omega
  simp only [encode, first, high, low]

private theorem encode_two {w x y : Nat} (hw : w < 64) (hx : x < 64) (hy : y < 64) (spare : y % 4 = 0) :
    encode [UInt8.ofNat (w * 4 + x / 16), UInt8.ofNat (x % 16 * 16 + y / 4)] =
      [digit w, digit x, digit y, pad] := by
  have first : (UInt8.ofNat (w * 4 + x / 16)).toNat = w * 4 + x / 16 :=
    UInt8.toNat_ofNat_of_lt' (show _ < 256 by omega)
  have second : (UInt8.ofNat (x % 16 * 16 + y / 4)).toNat = x % 16 * 16 + y / 4 :=
    UInt8.toNat_ofNat_of_lt' (show _ < 256 by omega)
  have high : (w * 4 + x / 16) / 4 = w := by omega
  have middle : (w * 4 + x / 16) % 4 * 16 + (x % 16 * 16 + y / 4) / 16 = x := by omega
  have low : (x % 16 * 16 + y / 4) % 16 * 4 = y := by omega
  simp only [encode, first, second, high, middle, low]

private theorem encode_three {w x y z : Nat} (hw : w < 64) (hx : x < 64) (hy : y < 64) (hz : z < 64)
    (rest : Bytes) :
    encode (UInt8.ofNat (w * 4 + x / 16) :: UInt8.ofNat (x % 16 * 16 + y / 4) ::
        UInt8.ofNat (y % 4 * 64 + z) :: rest) =
      digit w :: digit x :: digit y :: digit z :: encode rest := by
  have first : (UInt8.ofNat (w * 4 + x / 16)).toNat = w * 4 + x / 16 :=
    UInt8.toNat_ofNat_of_lt' (show _ < 256 by omega)
  have second : (UInt8.ofNat (x % 16 * 16 + y / 4)).toNat = x % 16 * 16 + y / 4 :=
    UInt8.toNat_ofNat_of_lt' (show _ < 256 by omega)
  have third : (UInt8.ofNat (y % 4 * 64 + z)).toNat = y % 4 * 64 + z :=
    UInt8.toNat_ofNat_of_lt' (show _ < 256 by omega)
  have high : (w * 4 + x / 16) / 4 = w := by omega
  have middle : (w * 4 + x / 16) % 4 * 16 + (x % 16 * 16 + y / 4) / 16 = x := by omega
  have middle' : (x % 16 * 16 + y / 4) % 16 * 4 + (y % 4 * 64 + z) / 64 = y := by omega
  have low : (y % 4 * 64 + z) % 64 = z := by omega
  simp only [encode, first, second, third, high, middle, middle', low]

/-- The bytes of a good group are written as that group; only the last one is padded. -/
theorem encode_of_group {a b c d : UInt8} {bytes : Bytes} (good : group? a b c d = some bytes) :
    if d = pad then encode bytes = [a, b, c, d]
    else ∀ rest, encode (bytes ++ rest) = a :: b :: c :: d :: encode rest := by
  simp only [group?, bind, Option.bind_eq_some_iff] at good
  obtain ⟨w, first, x, second, good⟩ := good
  obtain ⟨hw, rfl⟩ := digit_digitValue first
  obtain ⟨hx, rfl⟩ := digit_digitValue second
  split at good
  · rename_i padded
    obtain ⟨rfl, rfl⟩ := padded
    rw [if_pos rfl]
    split at good
    · rename_i spare
      cases good
      exact encode_one hw hx spare
    · cases good
  · obtain ⟨y, third, more⟩ := Option.bind_eq_some_iff.mp good
    obtain ⟨hy, rfl⟩ := digit_digitValue third
    split at more
    · rename_i padded
      rw [if_pos padded, padded]
      split at more
      · rename_i spare
        cases more
        exact encode_two hw hx hy spare
      · cases more
    · rename_i full
      obtain ⟨z, fourth, last⟩ := Option.bind_eq_some_iff.mp more
      obtain ⟨hz, rfl⟩ := digit_digitValue fourth
      rw [if_neg full]
      cases last
      exact encode_three hw hx hy hz

/-- A text without a bad group is what its bytes are written as. -/
theorem encode_of_decode {text bytes : Bytes} (read : decode text = ⟨bytes, true⟩) :
    encode bytes = text := by
  induction text using decode.induct generalizing bytes with
  | case1 =>
    cases read
    rfl
  | case2 a b c d rest bad =>
    rw [decode, bad] at read
    cases read
  | case3 a b c rest group good =>
    have last := encode_of_group good
    rw [decode, good] at read
    simp only [↓reduceIte, Spelled.mk.injEq, List.isEmpty_iff] at last read
    obtain ⟨rfl, rfl⟩ := read
    exact last
  | case4 a b c d rest group good full ih =>
    have front := encode_of_group good
    rw [decode, good] at read
    simp only [full, ↓reduceIte, Spelled.mk.injEq] at front read
    obtain ⟨rfl, intact⟩ := read
    have later : decode rest = ⟨(decode rest).bytes, true⟩ := by rw [← intact]
    rw [front, ih later]
  | case5 text short long =>
    rw [decode] at read
    · cases read
    · exact short
    · exact long

end AuthSigner.Base64
