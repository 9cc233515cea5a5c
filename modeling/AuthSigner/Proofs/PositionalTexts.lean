import AuthSigner.Bytes.Endian
import Mathlib.Data.Nat.Digits.Lemmas

/-! Byte strings written as numbers. A text over an alphabet stands for a byte string if it has as many
digits as byte strings of that length need, and is the same number. This is told of numbers alone, and
so holds of any way to write them: a text stands for one byte string and has no second spelling. -/
namespace AuthSigner

/-- The number that digits spell to a base, the highest first. -/
def numeral (base : Nat) (digits : List Nat) : Nat := Nat.ofDigits base digits.reverse

/-- A text whose characters, as digits in the order of the alphabet, are the number that the bytes are. No
digit is left out and none is added. -/
structure Positional (alphabet text : List Char) (bytes : Bytes) : Prop where
  letters : ∀ c ∈ text, c ∈ alphabet
  size : alphabet.length ^ text.length = 256 ^ bytes.length
  number : numeral alphabet.length (text.map alphabet.idxOf) = ofBigEndian bytes

variable {α : Type} {base : Nat} {digits others : List Nat}

@[simp] theorem numeral_nil (base : Nat) : numeral base [] = 0 := rfl

theorem numeral_append : numeral base (digits ++ others) =
    numeral base digits * base ^ others.length + numeral base others := by
  unfold numeral
  rw [List.reverse_append, Nat.ofDigits_append, List.length_reverse, Nat.mul_comm, Nat.add_comm]

theorem numeral_cons (d : Nat) : numeral base (d :: digits) = d * base ^ digits.length + numeral base digits := by
  have single : numeral base [d] = d := Nat.ofDigits_singleton
  rw [← List.singleton_append, numeral_append, single]

/-- Numerals of one length are different numbers. -/
theorem numeral_injective (many : 1 < base) (same : digits.length = others.length)
    (small : ∀ d ∈ digits, d < base) (small' : ∀ d ∈ others, d < base)
    (equal : numeral base digits = numeral base others) : digits = others := by
  refine List.reverse_inj.mp (Nat.ofDigits_inj_of_len_eq many ?_ ?_ ?_ equal)
  · rw [List.length_reverse, List.length_reverse, same]
  · exact fun d member => small d (List.mem_reverse.mp member)
  · exact fun d member => small' d (List.mem_reverse.mp member)

theorem length_flatMap_of_block {β : Type} {f : α → List β} {width : Nat} (each : ∀ x, (f x).length = width)
    (xs : List α) : (xs.flatMap f).length = width * xs.length := by
  induction xs with
  | nil => rfl
  | cons x xs ih => rw [List.flatMap_cons, List.length_append, each, ih, List.length_cons, Nat.mul_succ, Nat.add_comm]

/-- Where each item is told by a block of so many digits, the blocks in a row are a numeral to the base of
that power. -/
theorem numeral_flatMap {f : α → List Nat} {value : α → Nat} {width : Nat} {xs : List α}
    (each : ∀ x, (f x).length = width) (told : ∀ x ∈ xs, numeral base (f x) = value x) :
    numeral base (xs.flatMap f) = numeral (base ^ width) (xs.map value) := by
  induction xs with
  | nil => rfl
  | cons x xs ih =>
    rw [List.forall_mem_cons] at told
    rw [List.flatMap_cons, numeral_append, told.1, ih told.2, length_flatMap_of_block each, List.map_cons,
      numeral_cons, List.length_map, Nat.pow_mul]

/-! ## Bytes as a number -/

theorem ofBigEndian_eq (bytes : Bytes) : ofBigEndian bytes = numeral 256 (bytes.map UInt8.toNat) := by
  unfold ofBigEndian numeral
  rw [← List.map_reverse]
  induction bytes.reverse with
  | nil => rfl
  | cons b rest ih => rw [ofLittleEndian, ih, List.map_cons, Nat.ofDigits_cons]

theorem ofBigEndian_append (front back : Bytes) :
    ofBigEndian (front ++ back) = 2 ^ (8 * back.length) * ofBigEndian front + ofBigEndian back := by
  rw [ofBigEndian_eq, ofBigEndian_eq, ofBigEndian_eq, List.map_append, numeral_append, List.length_map, Nat.mul_comm,
    Nat.pow_mul]

theorem ofBigEndian_injective {bytes bytes' : Bytes} (same : bytes.length = bytes'.length)
    (equal : ofBigEndian bytes = ofBigEndian bytes') : bytes = bytes' := by
  rw [← bigEndian_ofBigEndian bytes, ← bigEndian_ofBigEndian bytes', same, equal]

/-! ## Texts over an alphabet -/

namespace Positional

variable {alphabet text text' : List Char} {bytes bytes' : Bytes}

theorem digits_lt (written : Positional alphabet text bytes) :
    ∀ d ∈ text.map alphabet.idxOf, d < alphabet.length := by
  intro d member
  obtain ⟨c, present, rfl⟩ := List.mem_map.mp member
  exact List.idxOf_lt_length_iff.mpr (written.letters c present)

/-- A text stands for one byte string. -/
theorem bytes_unique (written : Positional alphabet text bytes) (written' : Positional alphabet text bytes') :
    bytes = bytes' := by
  have power : 256 ^ bytes.length = 256 ^ bytes'.length := written.size.symm.trans written'.size
  exact ofBigEndian_injective (Nat.pow_right_injective (by decide) power)
    (written.number.symm.trans written'.number)

/-- A byte string has one spelling. -/
theorem text_unique (many : 1 < alphabet.length) (written : Positional alphabet text bytes)
    (written' : Positional alphabet text' bytes) : text = text' := by
  have power : alphabet.length ^ text.length = alphabet.length ^ text'.length :=
    written.size.trans written'.size.symm
  have length : (text.map alphabet.idxOf).length = (text'.map alphabet.idxOf).length := by
    rw [List.length_map, List.length_map]
    exact Nat.pow_right_injective many power
  have same := numeral_injective many length written.digits_lt written'.digits_lt
    (written.number.trans written'.number.symm)
  have back : ∀ {t : List Char}, (∀ c ∈ t, c ∈ alphabet) →
      (t.map alphabet.idxOf).map (alphabet[·]?) = t.map some := by
    intro t letters
    rw [List.map_map]
    refine List.map_congr_left fun c member => ?_
    have inside := List.idxOf_lt_length_iff.mpr (letters c member)
    exact (List.getElem?_eq_getElem inside).trans (congrArg some (List.getElem_idxOf inside))
  have spelt : text.map some = text'.map some := by
    rw [← back written.letters, same, back written'.letters]
  exact List.map_injective_iff.mpr (Option.some_injective _) spelt

end Positional
end AuthSigner
