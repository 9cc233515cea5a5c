import AuthSigner.Crypto.Edwards25519
import AuthSigner.Crypto.Sha2

/-! Ed25519 signatures. Verification is strict: besides the equation it demands a
reduced scalar, and a key and a commitment of large order, so that nothing but
the key's owner could have made the signature. -/
namespace AuthSigner.Ed25519
open Edwards25519

/-- What a seed expands to. -/
structure ExpandedSeed where
  /-- The secret multiple of the base point. -/
  scalar : Nat
  /-- What the secret of each signature is derived from. -/
  nonceKey : Bytes

/-- A number with its three lowest bits and its highest bit cleared, and bit 254 set. -/
def clamp (n : Nat) : Nat := n % (1 <<< 254) / 8 * 8 + (1 <<< 254)

/-- The secret values of a seed. -/
def expand (seed : Octets 32) : ExpandedSeed :=
  let hash := (sha512 seed.toBytes).toBytes
  ⟨clamp (ofLittleEndian (hash.take 32)), hash.drop 32⟩

/-- The public key of a seed. -/
def publicKey (seed : Octets 32) : Octets 32 := (Point.base.scale (expand seed).scalar).compress

/-- The SHA-512 digest of a message as a number below the group's order. -/
def hashToScalar (message : Bytes) : Nat := ofLittleEndian (sha512 message).toBytes % order

/-- The signature of a message: a commitment and a scalar. -/
def sign (seed : Octets 32) (message : Bytes) : Octets 64 :=
  let secret := expand seed
  let key := (Point.base.scale secret.scalar).compress
  let r := hashToScalar (secret.nonceKey ++ message)
  let commitment := (Point.base.scale r).compress
  let k := hashToScalar (commitment.toBytes ++ (key.toBytes ++ message))
  let s := (r + k * secret.scalar) % order
  ⟨commitment.toBytes ++ littleEndian 32 s, by simp [commitment.length_toBytes]⟩

/-- Whether a signature is the key's signature of a message: the scalar is below
the group's order, key and commitment are points of large order, and the point
that scalar, key and message determine has the bytes of the commitment. -/
def verifyStrict (key : Octets 32) (message : Bytes) (signature : Octets 64) : Bool :=
  let commitment := signature.toBytes.take 32
  let s := ofLittleEndian (signature.toBytes.drop 32)
  match Point.decompress? key, (Octets.ofBytes? 32 commitment).bind Point.decompress? with
  | some keyPoint, some commitmentPoint =>
    if s < order && !keyPoint.smallOrder && !commitmentPoint.smallOrder then
      let k := hashToScalar (commitment ++ (key.toBytes ++ message))
      let expected := (Point.base.scale s).add (keyPoint.neg.scale k)
      expected.compress.toBytes == commitment
    else false
  | _, _ => false

end AuthSigner.Ed25519
