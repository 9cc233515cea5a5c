import AuthSigner.Bytes.Octets

/-! Hexadecimal text. Writing uses lower-case digits; reading takes either case
and exactly two digits a byte. -/
namespace AuthSigner.Hex

/-- The lower-case digit of a number below sixteen. -/
def digit (n : Nat) : Char := if n < 10 then Char.ofNat (48 + n) else Char.ofNat (87 + n)

/-- The number a digit of either case stands for. -/
def digitValue? (c : Char) : Option Nat :=
  let n := c.toNat
  if 48 ≤ n ∧ n ≤ 57 then some (n - 48)
  else if 97 ≤ n ∧ n ≤ 102 then some (n - 87)
  else if 65 ≤ n ∧ n ≤ 70 then some (n - 55)
  else none

/-- Two digits a byte, the high half first. -/
def encodeChars (bytes : Bytes) : List Char :=
  bytes.flatMap fun b => [digit (b.toNat / 16), digit (b.toNat % 16)]

/-- The text of a byte string. -/
def encode (bytes : Bytes) : String := String.ofList (encodeChars bytes)

/-- The bytes that pairs of digits stand for; nothing if a digit is foreign or
stands alone. -/
def decodeChars? : List Char → Option Bytes
  | [] => some []
  | [_] => none
  | high :: low :: rest => do
    let h ← digitValue? high
    let l ← digitValue? low
    let bytes ← decodeChars? rest
    return UInt8.ofNat (16 * h + l) :: bytes

/-- The bytes of a hexadecimal text. -/
def decode? (text : String) : Option Bytes := decodeChars? text.toList

end AuthSigner.Hex
