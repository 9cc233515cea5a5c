import AuthSigner.Proofs.EnvelopeLayout
import AuthSigner.Proofs.SigningSemantics

/-! Signing as a splice of bytes. The encodings of an envelope before and after it was
signed have the same blocks, with the old expirations and signatures in between or the
new ones, and what was signed is read off the bytes around them. -/
namespace AuthSigner
open Xdr Fragment

theorem completed_keeping {σ : Type} (r : SigningRequest σ) (signatureOf : LocatedEntry → Octets 64) :
    Keeping fun x => r.completed x (signatureOf x) := fun _ => ⟨rfl, rfl⟩

/-- Signing is a splice. Before and after it the encodings consist of the same blocks; each
located entry has its old expiration and signature between two of them, or the new
expiration and proof. The block before ends with the nonce of the entry, the block behind
begins with its root invocation, and these bytes with the network and the new expiration
are what is hashed and signed. Operations without address entries and the entries of the
source account lie within the blocks. -/
theorem signing_splices_signatures {signed : SignedTransaction} (bounded : signed.transaction.Bounded)
    (network : Network) (secret : Secret) (expiration : UInt32) (printer : Printer) :
    ∃ (walk : Cursor) (digest : LocatedEntry → Octets 32) (after : Envelope) (transcript : Transcript)
      (first : Bytes) (later : List Bytes),
      (Envelope.v1 signed).locate = .ok walk ∧
      (Envelope.v1 signed).sign ⟨network, .ofSecret secret, expiration, printer⟩ () =
        ⟨.ok (walk.rest.map fun x => ⟨x.position, digest x⟩), after, transcript, ()⟩ ∧
      later.length = walk.rest.length ∧
      Envelope.codec.write (.v1 signed) = splice first
        (walk.rest.map fun x =>
          bigEndian 4 x.credentials.expiration.toNat ++ x.credentials.signature.write) later ∧
      Envelope.codec.write after = splice first
        (walk.rest.map fun x => bigEndian 4 expiration.toNat ++
          (Proof.mk (Ed25519.publicKey secret.seed)
            (Ed25519.sign secret.seed (digest x).toBytes)).toValue.write) later ∧
      (∀ (i : Nat) (x : LocatedEntry), walk.rest[i]? = some x → ∃ left right,
        (first :: later)[i]? = some (left ++ bigEndian 8 x.credentials.nonce.toUInt64.toNat) ∧
        later[i]? = some (x.entry.rootInvocation.write ++ right)) ∧
      (∀ x, digest x = sha256 ([0, 0, 0, 9] ++ network.id.toBytes ++
        bigEndian 8 x.credentials.nonce.toUInt64.toNat ++ bigEndian 4 expiration.toNat ++
        x.entry.rootInvocation.write)) ∧
      (∀ o ∈ signed.transaction.operations, (∀ e ∈ o.auth, e.credentials = .sourceAccount) →
        ∃ b ∈ first :: later, Operation.codec.write o <:+: b) ∧
      (∀ o ∈ signed.transaction.operations, ∀ e ∈ o.auth, e.credentials = .sourceAccount →
        ∃ b ∈ first :: later, AuthorizationEntry.codec.write e <:+: b) ∧
      (walk.rest = [] → Envelope.codec.write after = Envelope.codec.write (.v1 signed)) := by
  let r : SigningRequest Unit := ⟨network, .ofSecret secret, expiration, printer⟩
  let signatureOf (x : LocatedEntry) := Ed25519.sign secret.seed (r.digest x).toBytes
  obtain ⟨transcript, came⟩ := sign_of_secret (r := r) rfl bounded
  obtain ⟨first, later, blocks, old, new, around, others, source⟩ :=
    update_splices (completed_keeping r signatureOf) signed
  refine ⟨_, r.digest, .v1 (signed.withCredentials fun x => r.completed x (signatureOf x)), transcript,
    first, later, locate_v1 signed, ?_⟩
  rw [Cursor.rest_ofTransaction]
  refine ⟨came, blocks, old, new, around, r.digest_eq, others, source, ?_⟩
  intro none
  rw [old, new, none]
  rfl

theorem signing_splices_mixed :
    Sample.mixed.transaction.Bounded ∧
      ∃ (first middle last proof proof' : Bytes),
        Envelope.codec.write (.v1 Sample.mixed) = splice first
          [[0, 0, 0, 5] ++ (Value.scalar .void).write, [0, 0, 0, 5] ++ (Value.scalar .void).write] [middle, last] ∧
        Envelope.codec.write ((Envelope.v1 Sample.mixed).sign Sample.request ()).envelope =
          splice first [[0, 0, 3, 232] ++ proof, [0, 0, 3, 232] ++ proof'] [middle, last] ∧
        [0, 0, 0, 0, 0, 0, 0, 1] <:+ first ∧ [0, 0, 0, 0, 0, 0, 0, 2] <:+ middle ∧
        ∃ b ∈ [first, middle, last], Operation.codec.write ⟨none, .bumpSequence 7⟩ <:+: b := by
  obtain ⟨walk, digest, after, transcript, first, later, found, came, blocks, old, new, around, _, others, _⟩ :=
    signing_splices_signatures Sample.mixed_bounded .testnet ⟨.zero 32⟩ 1000 ⟨true, none⟩
  cases found
  rw [Cursor.rest_ofTransaction] at blocks old new around
  obtain ⟨middle, rest, rfl⟩ := List.exists_cons_of_length_eq_add_one blocks
  obtain ⟨last, none, rfl⟩ := List.exists_cons_of_length_eq_add_one (Nat.succ.inj blocks)
  obtain rfl := List.eq_nil_of_length_eq_zero (Nat.succ.inj (Nat.succ.inj blocks))
  obtain ⟨left, _, ends, _⟩ := around 0 _ rfl
  obtain ⟨left', _, ends', _⟩ := around 1 _ rfl
  have signed : ((Envelope.v1 Sample.mixed).sign Sample.request ()).envelope = after :=
    congrArg SigningOutcome.envelope came
  refine ⟨Sample.mixed_bounded, first, middle, last, _, _, old, signed ▸ new, ?_, ?_, ?_⟩
  · exact ⟨left, (Option.some.inj ends).symm⟩
  · exact ⟨left', (Option.some.inj ends').symm⟩
  · exact others _ (.tail _ (.head _)) nofun

end AuthSigner
