import AuthSigner.Proofs.PositionalTexts
import AuthSigner.StrKey
import Mathlib.Algebra.Field.ZMod
import Mathlib.Data.Nat.Bitwise
import Mathlib.RingTheory.AdjoinRoot
import Mathlib.Tactic.ComputeDegree

/-! The check of a key as a remainder. A byte string is a polynomial over two elements, whose coefficients
are its bits. The check is the one pair of bytes which, written behind the others, makes a multiple of
`x¹⁶ + x¹² + x⁵ + 1`. Modulo that polynomial, each bit that goes through the register is one multiplication
by `x`, and from this a whole byte string follows. -/
namespace AuthSigner.StrKey
open Polynomial

/-- The polynomial of the check. -/
noncomputable def generator : (ZMod 2)[X] := X ^ 16 + X ^ 12 + X ^ 5 + 1

/-- The polynomial whose coefficients are the binary digits of a number. -/
noncomputable def polynomial (n : Nat) : (ZMod 2)[X] := ∑ i ∈ Finset.range n with n.testBit i, X ^ i

/-- Two bytes that check others: with the higher one first, they complete them to a multiple of the
polynomial. In the text of a key the lower one stands first. -/
def Checks (body check : Bytes) : Prop :=
  ∃ low high, check = [low, high] ∧ generator ∣ polynomial (ofBigEndian (body ++ [high, low]))

/-! ## Numbers as polynomials -/

theorem coeff_polynomial (n i : Nat) : (polynomial n).coeff i = if n.testBit i then 1 else 0 := by
  have place : n.testBit i → i < n := fun set =>
    Nat.lt_of_lt_of_le Nat.lt_two_pow_self (Nat.ge_two_pow_of_testBit set)
  unfold polynomial
  rw [Polynomial.finsetSum_coeff]
  simp only [coeff_X_pow, Finset.sum_ite_eq, Finset.mem_filter, Finset.mem_range]
  exact if_congr ⟨And.right, fun set => ⟨place set, set⟩⟩ rfl rfl

theorem polynomial_zero : polynomial 0 = 0 := rfl

theorem polynomial_xor (m n : Nat) : polynomial (m ^^^ n) = polynomial m + polynomial n := by
  ext i
  rw [coeff_add, coeff_polynomial, coeff_polynomial, coeff_polynomial, Nat.testBit_xor]
  cases m.testBit i <;> cases n.testBit i <;> decide

/-- A number with another one in its low places. -/
theorem polynomial_add (m : Nat) {n places : Nat} (low : n < 2 ^ places) :
    polynomial (2 ^ places * m + n) = polynomial m * X ^ places + polynomial n := by
  ext i
  rw [coeff_add, coeff_mul_X_pow', coeff_polynomial, coeff_polynomial, coeff_polynomial,
    Nat.testBit_two_pow_mul_add m low]
  rcases Nat.lt_or_ge i places with below | above
  · simp only [below, Nat.not_le.mpr below, ↓reduceIte, zero_add]
  · have clear : n.testBit i = false :=
      Nat.testBit_lt_two_pow (Nat.lt_of_lt_of_le low (Nat.pow_le_pow_right (by decide) above))
    simp only [Nat.not_lt.mpr above, above, clear, Bool.false_eq_true, ↓reduceIte, add_zero]

theorem polynomial_eq_zero_iff {n : Nat} : polynomial n = 0 ↔ n = 0 := by
  constructor
  · intro zero
    refine Nat.eq_of_testBit_eq fun i => ?_
    have coefficient := coeff_polynomial n i
    rw [zero, coeff_zero] at coefficient
    rw [Nat.zero_testBit]
    cases set : n.testBit i
    · rfl
    · rw [set] at coefficient
      exact absurd coefficient (by decide)
  · rintro rfl
    rfl

/-- No number of sixteen bits but zero is a multiple of the polynomial. -/
theorem dvd_polynomial_iff {n : Nat} (small : n < 2 ^ 16) : generator ∣ polynomial n ↔ n = 0 := by
  constructor
  · intro multiple
    have degree : generator.degree = 16 := by
      unfold generator
      compute_degree!
    have lower : (polynomial n).degree < generator.degree := by
      rw [degree]
      refine (degree_lt_iff_coeff_zero _ 16).mpr fun i above => ?_
      rw [coeff_polynomial, Nat.testBit_lt_two_pow (Nat.lt_of_lt_of_le small (Nat.pow_le_pow_right (by decide) above))]
      rfl
    exact polynomial_eq_zero_iff.mp (eq_zero_of_dvd_of_degree_lt multiple lower)
  · rintro rfl
    exact dvd_zero _

/-! ## The register -/

private theorem polynomial_one : polynomial 1 = 1 := by
  ext i
  rw [coeff_polynomial, coeff_one]
  cases i with
  | zero => rfl
  | succ i =>
    have clear : Nat.testBit 1 (i + 1) = false := (Nat.testBit_succ 1 i).trans (Nat.zero_testBit i)
    rw [clear, if_neg Bool.false_ne_true, if_neg (Nat.succ_ne_zero i)]

private theorem polynomial_mask : polynomial (0x1021 : BitVec 16).toNat = X ^ 12 + X ^ 5 + 1 := by
  have places : (0x1021 : BitVec 16).toNat = 2 ^ 12 * 1 + (2 ^ 5 * 1 + 1) := by decide
  rw [places, polynomial_add 1 (by decide), polynomial_add 1 (by decide), polynomial_one, one_mul, one_mul, add_assoc]

private theorem generator_eq : generator = X ^ 16 + polynomial (0x1021 : BitVec 16).toNat := by
  rw [polynomial_mask, generator, ← add_assoc, ← add_assoc]

/-- A bit that goes through the register multiplies it by `x`, up to a multiple of the polynomial. -/
theorem polynomial_checksumBit (crc : BitVec 16) :
    polynomial (checksumBit crc).toNat = polynomial crc.toNat * X + if crc.msb then generator else 0 := by
  have bound := crc.isLt
  have shifted : (crc <<< 1).toNat = crc.toNat * 2 % 2 ^ 16 := by
    rw [BitVec.toNat_shiftLeft, Nat.shiftLeft_eq, Nat.pow_one]
  have doubled : polynomial (2 * crc.toNat) = polynomial crc.toNat * X := by
    have shift := polynomial_add crc.toNat (by decide : 0 < 2 ^ 1)
    rwa [polynomial_zero, Nat.add_zero, add_zero, Nat.pow_one, pow_one] at shift
  have top := BitVec.msb_eq_decide crc
  unfold checksumBit
  cases set : crc.msb
  · -- nothing leaves the register
    have small : crc.toNat < 2 ^ 15 := by
      rw [set] at top
      simpa using top.symm
    rw [if_neg Bool.false_ne_true, if_neg Bool.false_ne_true, shifted, add_zero, ← doubled]
    congr 1
    omega
  · -- the bit that leaves is the sixteenth power, which the mask makes up for
    have large : 2 ^ 15 ≤ crc.toNat := by
      rw [set] at top
      simpa using top.symm
    have split : 2 * crc.toNat = 2 ^ 16 * 1 + (crc <<< 1).toNat := by
      rw [shifted]
      omega
    have left := polynomial_add 1 (crc <<< 1).isLt
    rw [← split, doubled, polynomial_one, one_mul] at left
    rw [if_pos rfl, if_pos rfl, BitVec.toNat_xor, polynomial_xor, left, generator_eq, add_add_add_comm,
      CharTwo.add_self_eq_zero, zero_add]

/-! ## Remainders -/

/-- What a number leaves modulo the polynomial. -/
noncomputable def residue (n : Nat) : AdjoinRoot generator := AdjoinRoot.mk generator (polynomial n)

/-- What `x` leaves. -/
noncomputable def root : AdjoinRoot generator := AdjoinRoot.root generator

theorem residue_eq_zero_iff {n : Nat} : residue n = 0 ↔ generator ∣ polynomial n := AdjoinRoot.mk_eq_zero

theorem residue_zero : residue 0 = 0 := map_zero (AdjoinRoot.mk generator)

theorem residue_xor (m n : Nat) : residue (m ^^^ n) = residue m + residue n := by
  unfold residue
  rw [polynomial_xor, map_add]

theorem residue_add (m : Nat) {n places : Nat} (low : n < 2 ^ places) :
    residue (2 ^ places * m + n) = residue m * root ^ places + residue n := by
  unfold residue root
  rw [polynomial_add m low, map_add, map_mul, map_pow, AdjoinRoot.mk_X]

theorem residue_checksumBit (crc : BitVec 16) : residue (checksumBit crc).toNat = residue crc.toNat * root := by
  have gone : AdjoinRoot.mk generator (if crc.msb then generator else 0) = 0 := by
    split
    · exact AdjoinRoot.mk_self
    · exact map_zero _
  unfold residue root
  rw [polynomial_checksumBit, map_add, gone, add_zero, map_mul, AdjoinRoot.mk_X]

theorem residue_repeat (count : Nat) (crc : BitVec 16) :
    residue (Nat.repeat checksumBit count crc).toNat = residue crc.toNat * root ^ count := by
  induction count with
  | zero => rw [pow_zero, mul_one, Nat.repeat]
  | succ count ih => rw [Nat.repeat, residue_checksumBit, ih, pow_succ, mul_assoc]

theorem residue_checksumByte (crc : BitVec 16) (b : UInt8) : residue (checksumByte crc b).toNat =
    (residue crc.toNat + residue b.toNat * root ^ 8) * root ^ 8 := by
  have fits : b.toNat * 256 < 2 ^ 16 := by
    have bound := b.toNat_lt
    omega
  have high : residue (b.toNat * 256) = residue b.toNat * root ^ 8 := by
    have shift := residue_add b.toNat (by decide : 0 < 2 ^ 8)
    rw [residue_zero, Nat.add_zero, add_zero, Nat.mul_comm] at shift
    exact shift
  unfold checksumByte
  rw [residue_repeat, BitVec.toNat_xor, residue_xor, BitVec.toNat_ofNat, Nat.mod_eq_of_lt fits, high]

/-- The register holds what the bytes leave with two zeros behind them. -/
theorem residue_foldl (bytes : Bytes) :
    residue (bytes.foldl checksumByte 0).toNat = residue (ofBigEndian bytes) * root ^ 16 := by
  induction bytes using List.reverseRecOn with
  | nil => exact residue_zero.trans ((congrArg (· * root ^ 16) residue_zero).trans (zero_mul _)).symm
  | append_singleton bytes b ih =>
    have bound : b.toNat < 2 ^ 8 := b.toNat_lt
    have number : ofBigEndian (bytes ++ [b]) = 2 ^ 8 * ofBigEndian bytes + b.toNat := ofBigEndian_append bytes [b]
    rw [List.foldl_append, List.foldl_cons, List.foldl_nil, residue_checksumByte, ih, number, residue_add _ bound]
    ring

/-- The check of a byte string is the only one that checks it. -/
theorem checks_iff {body check : Bytes} : Checks body check ↔ check = checksum body := by
  have pair : ∀ low high : UInt8, generator ∣ polynomial (ofBigEndian (body ++ [high, low])) ↔
      (body.foldl checksumByte 0).toNat = ofLittleEndian [low, high] := by
    intro low high
    have small : ofLittleEndian [low, high] < 2 ^ 16 := by
      have bounds := And.intro low.toNat_lt high.toNat_lt
      simp only [ofLittleEndian]
      omega
    have number : ofBigEndian (body ++ [high, low]) = 2 ^ 16 * ofBigEndian body + ofLittleEndian [low, high] :=
      ofBigEndian_append body [high, low]
    -- what is left of both together is the difference of the register and the check, which have sixteen bits
    rw [← residue_eq_zero_iff, number, residue_add _ small, ← residue_foldl, ← residue_xor, residue_eq_zero_iff,
      dvd_polynomial_iff (Nat.xor_lt_two_pow (BitVec.isLt _) small), Nat.xor_eq_zero_iff]
  unfold Checks checksum
  simp only [pair]
  constructor
  · rintro ⟨low, high, rfl, same⟩
    rw [same]
    exact (littleEndian_ofLittleEndian [low, high]).symm
  · rintro rfl
    have whole : (body.foldl checksumByte 0).toNat < Nat.pow 256 2 := (body.foldl checksumByte 0).isLt
    exact ⟨_, _, rfl, ((ofLittleEndian_littleEndian 2 _).trans (Nat.mod_eq_of_lt whole)).symm⟩

end AuthSigner.StrKey
