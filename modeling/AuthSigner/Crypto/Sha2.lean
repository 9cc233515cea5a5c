import AuthSigner.Bytes.Endian

/-! The SHA-2 hash functions SHA-256 and SHA-512. Both are one construction over
words of a different width: blocks of sixteen words are mixed into a state of
eight, with round constants that are the fractional digits of the cube roots of
the first primes, from a state that starts as those of their square roots. -/
namespace AuthSigner.Sha2

/-- Extends `found` by the given number of binary digits, from the highest, to the
largest number whose power does not exceed `n`. -/
def root (exponent n : Nat) : Nat → Nat → Nat
  | 0, found => found
  | digits + 1, found =>
    let larger := found + (1 <<< digits)
    root exponent n digits (if Nat.pow larger exponent ≤ n then larger else found)

/-- The first `w` binary digits after the point of the root of `n`. -/
def rootDigits (w exponent n : Nat) : BitVec w :=
  BitVec.ofNat w (root exponent (n <<< (w * exponent)) (w + 8) 0)

/-- The first eighty primes. -/
def primes : List Nat :=
  (List.range 410).filter fun n => 1 < n && (List.range n).all fun d => d < 2 || n % d != 0

/-- The eight words that a message is mixed into. -/
structure State (w : Nat) where
  a : BitVec w
  b : BitVec w
  c : BitVec w
  d : BitVec w
  e : BitVec w
  f : BitVec w
  g : BitVec w
  h : BitVec w

namespace State

variable {w : Nat}

/-- The digits of the square roots of the first eight primes. -/
def initial (w : Nat) : State w :=
  ⟨rootDigits w 2 2, rootDigits w 2 3, rootDigits w 2 5, rootDigits w 2 7,
    rootDigits w 2 11, rootDigits w 2 13, rootDigits w 2 17, rootDigits w 2 19⟩

/-- Word by word addition. -/
def add (s t : State w) : State w :=
  ⟨s.a + t.a, s.b + t.b, s.c + t.c, s.d + t.d, s.e + t.e, s.f + t.f, s.g + t.g, s.h + t.h⟩

def words (s : State w) : List (BitVec w) := [s.a, s.b, s.c, s.d, s.e, s.f, s.g, s.h]

end State

/-- What distinguishes the functions of the family. -/
structure Variant where
  /-- Bytes in a word. -/
  wordBytes : Nat
  rounds : Nat
  /-- Three rotations. -/
  mixA : Nat × Nat × Nat
  mixE : Nat × Nat × Nat
  /-- Two rotations and a shift. -/
  spread15 : Nat × Nat × Nat
  spread2 : Nat × Nat × Nat
  /-- The round constants. -/
  constants : List (BitVec (8 * wordBytes))

namespace Variant

/-- A word of the variant. -/
abbrev Word (v : Variant) := BitVec (8 * v.wordBytes)

/-- The sum of three rotations of a word. -/
def rotations {w : Nat} (amounts : Nat × Nat × Nat) (x : BitVec w) : BitVec w :=
  x.rotateRight amounts.1 ^^^ x.rotateRight amounts.2.1 ^^^ x.rotateRight amounts.2.2

/-- The sum of two rotations and a shift of a word. -/
def rotationsShift {w : Nat} (amounts : Nat × Nat × Nat) (x : BitVec w) : BitVec w :=
  x.rotateRight amounts.1 ^^^ x.rotateRight amounts.2.1 ^^^ (x >>> amounts.2.2)

/-- Adds `n` words to a schedule, which is kept with the latest word first. Each
is made from the words 2, 7, 15 and 16 places before it. -/
def extend (v : Variant) : Nat → List v.Word → List v.Word
  | 0, latest => latest
  | n + 1, latest =>
    let back (k : Nat) : v.Word := latest.getD (k - 1) 0
    let word := rotationsShift v.spread2 (back 2) + back 7 + rotationsShift v.spread15 (back 15) + back 16
    extend v n (word :: latest)

/-- One word for each round, of which the first sixteen are the block. -/
def schedule (v : Variant) (block : List v.Word) : List v.Word :=
  (extend v (v.rounds - 16) block.reverse).reverse

/-- One round, with its constant and its word of the schedule. -/
def round (v : Variant) (s : State (8 * v.wordBytes)) (k word : v.Word) : State (8 * v.wordBytes) :=
  let choice := (s.e &&& s.f) ^^^ (~~~s.e &&& s.g)
  let majority := (s.a &&& s.b) ^^^ (s.a &&& s.c) ^^^ (s.b &&& s.c)
  let t := s.h + rotations v.mixE s.e + choice + k + word
  ⟨t + (rotations v.mixA s.a + majority), s.a, s.b, s.c, s.d + t, s.e, s.f, s.g⟩

/-- Mixes a block into the state. -/
def compress (v : Variant) (s : State (8 * v.wordBytes)) (block : List v.Word) :
    State (8 * v.wordBytes) :=
  s.add <| (v.constants.zip (v.schedule block)).foldl (fun s (k, word) => v.round s k word) s

/-- The words that bytes spell, `n` of them. -/
def toWords (v : Variant) : Nat → Bytes → List v.Word
  | 0, _ => []
  | n + 1, bytes =>
    BitVec.ofNat _ (ofBigEndian (bytes.take v.wordBytes)) :: toWords v n (bytes.drop v.wordBytes)

/-- A message filled up to whole blocks: a one bit, zeros, and the length in bits
as a number of two words. -/
def pad (v : Variant) (message : Bytes) : Bytes :=
  let block := 16 * v.wordBytes
  let used := (message.length + 1 + 2 * v.wordBytes) % block
  message ++ (128 :: List.replicate ((block - used) % block) 0 ++
    bigEndian (2 * v.wordBytes) (8 * message.length))

/-- Mixes `n` blocks into the state. -/
def absorb (v : Variant) : Nat → State (8 * v.wordBytes) → Bytes → State (8 * v.wordBytes)
  | 0, s, _ => s
  | n + 1, s, bytes =>
    absorb v n (v.compress s (v.toWords 16 bytes)) (bytes.drop (16 * v.wordBytes))

/-- The digest of a message. -/
def digest (v : Variant) (message : Bytes) : Octets (8 * v.wordBytes) :=
  let padded := v.pad message
  let s := v.absorb (padded.length / (16 * v.wordBytes)) (.initial _) padded
  ⟨s.words.flatMap fun word => bigEndian v.wordBytes word.toNat, by
    simp [State.words]; omega⟩

end Variant

/-- Words of four bytes and 64 rounds. -/
def sha256Variant : Variant where
  wordBytes := 4
  rounds := 64
  mixA := (2, 13, 22)
  mixE := (6, 11, 25)
  spread15 := (7, 18, 3)
  spread2 := (17, 19, 10)
  constants := (primes.take 64).map (rootDigits 32 3)

/-- Words of eight bytes and 80 rounds. -/
def sha512Variant : Variant where
  wordBytes := 8
  rounds := 80
  mixA := (28, 34, 39)
  mixE := (14, 18, 41)
  spread15 := (1, 8, 7)
  spread2 := (19, 61, 6)
  constants := primes.map (rootDigits 64 3)

end Sha2

/-- SHA-256. -/
def sha256 (message : Bytes) : Octets 32 := Sha2.sha256Variant.digest message

/-- SHA-512. -/
def sha512 (message : Bytes) : Octets 64 := Sha2.sha512Variant.digest message

end AuthSigner
