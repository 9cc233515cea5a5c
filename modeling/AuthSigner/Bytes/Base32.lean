import AuthSigner.Bytes.Octets

/-! Base32 in upper case and without padding. A text is read only if it is the
text of its bytes: the bits that the last character has to spare must be zero,
and there must be fewer of them than a character holds. -/
namespace AuthSigner.Base32

/-- The bits of a byte, the highest first. -/
def byteBits (b : UInt8) : List Bool :=
  [b.toNat.testBit 7, b.toNat.testBit 6, b.toNat.testBit 5, b.toNat.testBit 4,
    b.toNat.testBit 3, b.toNat.testBit 2, b.toNat.testBit 1, b.toNat.testBit 0]

/-- The number that bits spell, the highest first. -/
def ofBits (bits : List Bool) : Nat := bits.foldl (fun n b => 2 * n + b.toNat) 0

/-- The character of a five-bit digit: letters, then the figures from two. -/
def digit (n : Nat) : Char := if n < 26 then Char.ofNat (65 + n) else Char.ofNat (24 + n)

/-- The five-bit digit of a character. -/
def digitValue? (c : Char) : Option Nat :=
  let n := c.toNat
  if 65 ≤ n ∧ n ≤ 90 then some (n - 65)
  else if 50 ≤ n ∧ n ≤ 55 then some (n - 24)
  else none

/-- The bits of a five-bit digit, the highest first. -/
def digitBits (n : Nat) : List Bool :=
  [n.testBit 4, n.testBit 3, n.testBit 2, n.testBit 1, n.testBit 0]

/-- Five bits to a character; the last is filled up with zeros. -/
def encodeBits : List Bool → List Char
  | a :: b :: c :: d :: e :: rest => digit (ofBits [a, b, c, d, e]) :: encodeBits rest
  | [] => []
  | bits => [digit (ofBits (bits ++ List.replicate (5 - bits.length) false))]

/-- Eight bits to a byte; fewer than five zeros may be left over. -/
def decodeBits? : List Bool → Option Bytes
  | a :: b :: c :: d :: e :: f :: g :: h :: rest => do
    let bytes ← decodeBits? rest
    return UInt8.ofNat (ofBits [a, b, c, d, e, f, g, h]) :: bytes
  | bits => if bits.length < 5 ∧ bits.all (!·) then some [] else none

/-- The text of a byte string. -/
def encode (bytes : Bytes) : List Char := encodeBits (bytes.flatMap byteBits)

/-- The bytes of a text. -/
def decode? (text : List Char) : Option Bytes := do
  let digits ← text.mapM digitValue?
  decodeBits? (digits.flatMap digitBits)

end AuthSigner.Base32
