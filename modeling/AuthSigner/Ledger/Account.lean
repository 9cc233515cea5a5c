import AuthSigner.Xdr.Codec

/-! Accounts and the keys that sign for them. -/
namespace AuthSigner
open Xdr

/-- A SHA-256 digest. -/
abbrev Hash := Octets 32

/-- The format of digests and of ed25519 public keys. -/
def Hash.codec : Codec Hash := Codec.octets 32

/-- An account, named by its ed25519 public key. -/
structure AccountId where
  key : Octets 32
deriving DecidableEq

/-- Public keys have one kind only, numbered zero. -/
def AccountId.codec : Codec AccountId := (Codec.only 0 (Codec.octets 32)).imap .mk (·.key)

/-- An account, or one of the identities that share it. -/
inductive MuxedAccount where
  | ed25519 (key : Octets 32)
  | muxed (id : UInt64) (key : Octets 32)
deriving DecidableEq

def MuxedAccount.codec : Codec MuxedAccount := .union [
  .of 0 (.octets 32) .ed25519 fun | .ed25519 key => some key | _ => none,
  .of 0x100 (.pair .u64 (.octets 32)) (fun (id, key) => .muxed id key)
    fun | .muxed id key => some (id, key) | _ => none]

/-- What may sign for an account. -/
inductive SignerKey where
  | ed25519 (key : Octets 32)
  | preAuthTx (hash : Octets 32)
  | hashX (hash : Octets 32)
  /-- A key, and the payload it has to sign. -/
  | signedPayload (key : Octets 32) (payload : Bytes)
deriving DecidableEq

def SignerKey.codec : Codec SignerKey := .union [
  .of 0 (.octets 32) .ed25519 fun | .ed25519 key => some key | _ => none,
  .of 1 (.octets 32) .preAuthTx fun | .preAuthTx hash => some hash | _ => none,
  .of 2 (.octets 32) .hashX fun | .hashX hash => some hash | _ => none,
  .of 3 (.pair (.octets 32) (.bytes 64)) (fun (key, payload) => .signedPayload key payload)
    fun | .signedPayload key payload => some (key, payload) | _ => none]

/-- A signing key and the weight of its signature. -/
structure WeightedSigner where
  key : SignerKey
  weight : UInt32
deriving DecidableEq

def WeightedSigner.codec : Codec WeightedSigner :=
  (SignerKey.codec.pair .u32).imap (fun (key, weight) => ⟨key, weight⟩) fun s => (s.key, s.weight)

end AuthSigner
