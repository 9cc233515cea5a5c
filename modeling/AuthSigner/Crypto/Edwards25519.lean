import AuthSigner.Bytes.Endian

/-! The twisted Edwards curve `-x² + y² = 1 + d x² y²` over the integers modulo
`2 ^ 255 - 19`, and the 32-byte form of its points. Points are kept in extended
coordinates, so that one formula adds any two of them without a division. -/
namespace AuthSigner.Edwards25519

/-- The field's modulus. -/
def modulus : Nat := (1 <<< 255) - 19

/-- The order of the subgroup that the base point generates. -/
def order : Nat := (1 <<< 252) + 27742317777372353535851937790883648493

/-- Repeated squaring: `base` multiplied with itself as often as 256 binary digits
of the exponent say. -/
def repeated {α : Type} (mul : α → α → α) (one base : α) (exponent : Nat) : α :=
  (List.range 256).foldr
    (fun digit acc =>
      let squared := mul acc acc
      if exponent.testBit digit then mul squared base else squared)
    one

namespace Residue

def mul (a b : Nat) : Nat := a * b % modulus

def add (a b : Nat) : Nat := (a + b) % modulus

def sub (a b : Nat) : Nat := (a + (modulus - b % modulus)) % modulus

def neg (a : Nat) : Nat := sub 0 a

def pow (a exponent : Nat) : Nat := repeated mul 1 a exponent

/-- The reciprocal, and zero for zero. -/
def inv (a : Nat) : Nat := pow a (modulus - 2)

/-- A square root of minus one. -/
def rootOfMinusOne : Nat := pow 2 ((modulus - 1) / 4)

/-- The even square root of `u / v`, if there is one. -/
def rootOfRatio? (u v : Nat) : Option Nat :=
  let v3 := mul (mul v v) v
  let v7 := mul (mul v3 v3) v
  let r := mul (mul u v3) (pow (mul u v7) ((modulus - 5) / 8))
  let check := mul v (mul r r)
  let even (r : Nat) : Nat := if r % 2 = 0 then r else neg r
  if check = u % modulus then some (even r)
  else if check = neg u then some (even (mul r rootOfMinusOne))
  else none

end Residue

open Residue

/-- The curve's constant, `-121665 / 121666`. -/
def curveConstant : Nat := mul (neg 121665) (inv 121666)

/-- A point `(x / z, y / z)` of the curve, with `t = x y / z`. -/
structure Point where
  x : Nat
  y : Nat
  z : Nat
  t : Nat

namespace Point

/-- The neutral point. -/
def zero : Point := ⟨0, 1, 1, 0⟩

def add (p q : Point) : Point :=
  let a := mul (sub p.y p.x) (sub q.y q.x)
  let b := mul (Residue.add p.y p.x) (Residue.add q.y q.x)
  let c := mul (mul (2 * curveConstant) p.t) q.t
  let d := mul (2 * p.z) q.z
  let e := sub b a
  let f := sub d c
  let g := Residue.add d c
  let h := Residue.add b a
  ⟨mul e f, mul g h, mul f g, mul e h⟩

def neg (p : Point) : Point := ⟨Residue.neg p.x, p.y, p.z, Residue.neg p.t⟩

/-- The sum of `n` times the point. -/
def scale (n : Nat) (p : Point) : Point := repeated add zero p n

/-- The 32 bytes of a point: its second coordinate, and in the highest bit whether
the first is odd. -/
def compress (p : Point) : Octets 32 :=
  let recip := inv p.z
  let x := mul p.x recip
  let y := mul p.y recip
  ⟨littleEndian 32 (y + (x % 2) <<< 255), length_littleEndian 32 _⟩

/-- The point that 32 bytes stand for, if its first coordinate exists. The second
coordinate is taken modulo the field's modulus, and the highest bit is ignored
where the first coordinate is zero. -/
def decompress? (bytes : Octets 32) : Option Point := do
  let n := ofLittleEndian bytes.toBytes
  let y := n % (1 <<< 255) % modulus
  let y2 := mul y y
  let even ← rootOfRatio? (sub y2 1) (Residue.add (mul curveConstant y2) 1)
  let x := if n.testBit 255 then Residue.neg even else even
  return ⟨x, y, 1, mul x y⟩

/-- Eight times the point is the neutral point. -/
def smallOrder (p : Point) : Bool :=
  let p2 := p.add p
  let p4 := p2.add p2
  let p8 := p4.add p4
  p8.x % modulus = 0 && p8.y % modulus = p8.z % modulus

/-- The point of which signatures use multiples: the second coordinate is `4 / 5`
and the first is even. -/
def base : Point :=
  ⟨15112221349535400772501151409588531511454012693041857206046113283949847762202,
    46316835694926478169428394003475163141307993866256225615783033603165251855960, 1,
    46827403850823179245072216630277197565144205554125654976674165829533817101731⟩

end Point
end AuthSigner.Edwards25519
