import AuthSigner.Crypto.Ed25519
import AuthSigner.Entries.Fallible
import AuthSigner.Secret

/-! What signs. A signer has a public key and makes signatures; it may keep a
state from one to the next, and may fail. -/
namespace AuthSigner

/-- No signature was made. -/
inductive SigningError where
  | refused
deriving DecidableEq

def SigningError.message : SigningError → String
  | .refused => "failed to sign payload: signature error"

/-- A maker of signatures with a state `σ`. -/
structure Signer (σ : Type) where
  publicKey : Octets 32
  /-- The signature of these very bytes. -/
  signBlob : Bytes → Fallible σ SigningError (Octets 64)

namespace Signer

variable {σ : Type}

/-- Signs the digest of a payload, which is what the network checks, and gives it
with the signature. -/
def signPayload (signer : Signer σ) (payload : Bytes) :
    Fallible σ SigningError (Octets 32 × Octets 64) := do
  let digest := sha256 payload
  let signature ← signer.signBlob digest.toBytes
  return (digest, signature)

/-- The signer of a secret. It has no state and does not fail. -/
def ofSecret (secret : Secret) : Signer Unit where
  publicKey := Ed25519.publicKey secret.seed
  signBlob blob := return Ed25519.sign secret.seed blob

/-- A signer that fails at its `n`-th signature, counted from zero, and else does
as another. -/
def failingAt (n : Nat) (signer : Signer σ) : Signer (Nat × σ) where
  publicKey := signer.publicKey
  signBlob blob := fun (made, state) =>
    if made = n then (.error .refused, (made + 1, state))
    else
      let (result, state') := (signer.signBlob blob).run.run state
      (result, (made + 1, state'))

end Signer
end AuthSigner
