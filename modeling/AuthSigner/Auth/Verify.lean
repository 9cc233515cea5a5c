import AuthSigner.Auth.Payload
import AuthSigner.Auth.Proof
import AuthSigner.Console.Log
import AuthSigner.Crypto.Ed25519
import AuthSigner.Entries.Cursor
import AuthSigner.Bytes.Hex
import AuthSigner.Ledger.AddressText

/-! Verifying the address entries of an envelope. The payload is rebuilt from the
entry as it stands, and the proof in its credentials must be a strictly valid
signature of it. Entries of the source account are not looked at, nor is the key
of a proof compared with the address. -/
namespace AuthSigner

/-- An entry whose proof holds. -/
structure Verified where
  position : Position
  publicKey : Octets 32
  digest : Octets 32
deriving DecidableEq

/-- Why an envelope does not verify. -/
inductive VerifyError where
  | unsupported (kind : UnsupportedEnvelope)
  | missingSignature (position : Position)
  | malformedSignature (position : Position)
  | invalidSignature (position : Position) (publicKey : Octets 32)
deriving DecidableEq

def VerifyError.message : VerifyError → String
  | .unsupported kind => kind.message
  | .missingSignature p => s!"{p.describe} is not signed"
  | .malformedSignature p => s!"{p.describe} has a malformed signature: {ProofError.malformed.message}"
  | .invalidSignature p key =>
    s!"{p.describe} has a signature that does not verify against public key {publicKeyText key}"

/-- The payload of an entry, as it stands. -/
def LocatedEntry.payload (x : LocatedEntry) (networkId : Octets 32) : Payload :=
  ⟨networkId, x.credentials.nonce, x.credentials.expiration, x.entry.rootInvocation⟩

/-- Verifies one entry. -/
def LocatedEntry.verify (networkId : Octets 32) (x : LocatedEntry) : Except VerifyError Verified :=
  match x.credentials.signature with
  | .scalar .void => .error (.missingSignature x.position)
  | signature =>
    match Proof.ofValue? signature with
    | none => .error (.malformedSignature x.position)
    | some proof =>
      let digest := (x.payload networkId).digest
      if Ed25519.verifyStrict proof.publicKey digest.toBytes proof.signature then
        .ok ⟨x.position, proof.publicKey, digest⟩
      else .error (.invalidSignature x.position proof.publicKey)

/-- How far a verification came: the entries that verify before the first that
does not, and what is wrong with that one. -/
structure Verification where
  verified : List Verified
  fault : Option VerifyError
deriving DecidableEq

namespace Verification

/-- Verifies entries in their order, up to the first that does not verify. -/
def ofEntries (networkId : Octets 32) : List LocatedEntry → Verification
  | [] => ⟨[], none⟩
  | x :: rest =>
    match x.verify networkId with
    | .error fault => ⟨[], some fault⟩
    | .ok v =>
      let more := ofEntries networkId rest
      ⟨v :: more.verified, more.fault⟩

/-- The entries, if all verify, or the first fault. -/
def result (v : Verification) : Except VerifyError (List Verified) :=
  match v.fault with
  | none => .ok v.verified
  | some fault => .error fault

/-- The log of a verification: a record for each entry that verifies. -/
def transcript (v : Verification) : Transcript :=
  v.verified.map fun entry => .logged {
    level := .trace
    target := "stellar_sign_auth::auth::verify"
    message := "verified authorization"
    fields := [("position", entry.position.describe), ("digest", Hex.encode entry.digest.toBytes)] }

end Verification

/-- Verifies the address entries of an envelope. -/
def Envelope.verification (e : Envelope) (networkId : Octets 32) : Verification :=
  match e.locate with
  | .error kind => ⟨[], some (.unsupported kind)⟩
  | .ok cursor => .ofEntries networkId cursor.rest

/-- All address entries of an envelope, if all verify, or the first fault. -/
def Envelope.verify (e : Envelope) (networkId : Octets 32) : Except VerifyError (List Verified) :=
  (e.verification networkId).result

end AuthSigner
