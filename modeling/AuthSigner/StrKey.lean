import AuthSigner.Bytes.Base32
import AuthSigner.Bytes.Endian

/-! Keys as text. A key's text begins with a letter that tells what it is a key
of, and ends with a checksum, so that neither a wrong kind nor a slip of the
hand goes unnoticed. -/
namespace AuthSigner.StrKey

/-- What a key is a key of. -/
inductive Kind where
  | claimableBalance
  | contract
  | publicKey
  | liquidityPool
  | muxedAccount
  | seed
deriving DecidableEq

/-- The first byte of a key of each kind. It makes the first character of the
text B, C, G, L, M or S. -/
def Kind.version : Kind → UInt8
  | .claimableBalance => 8
  | .contract => 16
  | .publicKey => 48
  | .liquidityPool => 88
  | .muxedAccount => 96
  | .seed => 144

/-- One bit of the cyclic redundancy check with the polynomial `x¹⁶ + x¹² + x⁵ + 1`. -/
def checksumBit (crc : BitVec 16) : BitVec 16 :=
  if crc.msb then (crc <<< 1) ^^^ 0x1021 else crc <<< 1

/-- One byte of the check: eight bits, the highest first. -/
def checksumByte (crc : BitVec 16) (b : UInt8) : BitVec 16 :=
  Nat.repeat checksumBit 8 (crc ^^^ BitVec.ofNat 16 (b.toNat * 256))

/-- The check of a byte string, as two bytes, the lower first. -/
def checksum (bytes : Bytes) : Bytes := littleEndian 2 (bytes.foldl checksumByte 0).toNat

/-- The text of a key. -/
def encode (kind : Kind) (payload : Bytes) : String :=
  let body := kind.version :: payload
  String.ofList (Base32.encode (body ++ checksum body))

/-- The bytes of a key of the given kind, if this is the text of one. -/
def decode? (kind : Kind) (text : String) : Option Bytes := do
  let bytes ← Base32.decode? text.toList
  let body := bytes.take (bytes.length - 2)
  match body with
  | version :: payload =>
    if version = kind.version ∧ bytes.drop (bytes.length - 2) = checksum body then some payload
    else none
  | [] => none

end AuthSigner.StrKey
