import AuthSigner.Ledger.Authorization
import AuthSigner.Ledger.Record

/-! The signature in an address's credentials, and the value that it is stored
as. Reading is strict: the one value that writing gives is accepted, and no
other, since the contract that checks the signature is as strict. -/
namespace AuthSigner

/-- A signature, and the public key that it is to be checked with. -/
structure Proof where
  publicKey : Octets 32
  signature : Octets 64
deriving DecidableEq

/-- The value is not a proof. -/
inductive ProofError where
  | malformed
deriving DecidableEq

def ProofError.message : ProofError → String
  | .malformed => "signature is not a map of public_key (32 bytes) and signature (64 bytes)"

namespace Proof

/-- The bytes of an ASCII name. -/
def nameBytes (name : String) : Bytes := name.toList.map fun c => UInt8.ofNat c.toNat

/-- A symbol. -/
def symbol (name : String) : Value := .scalar (.symbol (nameBytes name))

/-- A map from two symbols, in their order, to the key and the signature. -/
def toValue (p : Proof) : Value :=
  .map (some [
    (symbol "public_key", .scalar (.bytes p.publicKey.toBytes)),
    (symbol "signature", .scalar (.bytes p.signature.toBytes))])

/-- Writes a proof as a record of two fields. -/
def store (p : Proof) : Except Xdr.DecodeError Value := do
  let publicKey ← Value.ofBytes p.publicKey.toBytes
  let signature ← Value.ofBytes p.signature.toBytes
  Value.record [(nameBytes "public_key", publicKey), (nameBytes "signature", signature)]

/-- No proof is too large to be written, and the names are in order. -/
theorem store_eq (p : Proof) : p.store = .ok p.toValue := by
  have key : Value.ofBytes p.publicKey.toBytes = .ok (.scalar (.bytes p.publicKey.toBytes)) := by
    apply Value.ofBytes_of_short
    rw [p.publicKey.length_toBytes]
    decide
  have signature : Value.ofBytes p.signature.toBytes = .ok (.scalar (.bytes p.signature.toBytes)) := by
    apply Value.ofBytes_of_short
    rw [p.signature.length_toBytes]
    decide
  have before : nameBytes "public_key" < nameBytes "signature" := by decide
  rw [store, key, signature]
  change Value.record [(nameBytes "public_key", _), (nameBytes "signature", _)] = _
  apply Value.record_of_ascending
  · exact List.pairwise_pair.mpr before
  · have short : ∀ name ∈ ["public_key", "signature"], (nameBytes name).length ≤ Value.symbolLimit := by decide
    intro field member
    rcases List.mem_cons.mp member with rfl | member
    · exact short "public_key" (by decide)
    · rw [List.mem_singleton.mp member]
      exact short "signature" (by decide)
  · exact (by decide : 2 ≤ Xdr.unbounded)

/-- The bytes stored under a symbol, if this is the entry of that symbol. -/
def entryBytes? (name : String) : Value × Value → Option Bytes
  | (.scalar (.symbol key), .scalar (.bytes data)) => if key = nameBytes name then some data else none
  | _ => none

/-- The proof that a value stores. -/
def ofValue? : Value → Option Proof
  | .map (some [first, second]) => do
    let publicKey ← Octets.ofBytes? 32 (← entryBytes? "public_key" first)
    let signature ← Octets.ofBytes? 64 (← entryBytes? "signature" second)
    return ⟨publicKey, signature⟩
  | _ => none

/-- The proof that a value stores, or that it stores none. -/
def ofValue (v : Value) : Except ProofError Proof :=
  match ofValue? v with
  | some p => .ok p
  | none => .error .malformed

end Proof

/-- Credentials with a new proof, which holds until the given ledger. The address
and the nonce stay. -/
def AddressCredentials.withProof (c : AddressCredentials) (expiration : UInt32) (p : Proof) :
    AddressCredentials :=
  { c with expiration, signature := p.toValue }

end AuthSigner
