import AuthSigner.Proofs.PayloadInjectivity
import AuthSigner.Proofs.VerificationMeaning

/-! Why a signature cannot be moved to another authorization. A proof that holds for two
different authorizations holds for two payloads, since no two authorizations share one. So
either the payloads are a collision of SHA-256, or the one signature is valid for two digests.
Neither is assumed away: both stand in the statements, about the payloads at hand. -/
namespace AuthSigner
open Xdr

/-- The two byte strings differ and have the same digest. -/
def Collision (a b : Bytes) : Prop := a ≠ b ∧ sha256 a = sha256 b

/-- The one signature is strictly valid for two digests under the one key. -/
structure Proof.Ambiguous (p : Proof) (digest digest' : Octets 32) : Prop where
  different : digest ≠ digest'
  first : p.Accepts digest
  second : p.Accepts digest'

/-- The bytes of a payload tell the payload. -/
theorem Payload.eq_of_bytes {p q : Payload} (fits : p.invocation.Fits) (fits' : q.invocation.Fits)
    (same : p.bytes = q.bytes) : p = q :=
  Codec.write_injective (fun _ => Payload.lawful) (Payload.fits fits) (Payload.fits fits') same

/-- Located entries of a transaction that fits have invocations that fit. -/
theorem located_invocation_fits {t : Transaction} {x : LocatedEntry} (fits : Transaction.codec.Fits t)
    (member : x ∈ t.addressEntries) : x.entry.rootInvocation.Fits := by
  obtain ⟨o, there, found, _⟩ := mem_addressEntries_iff.mp member
  have operation := (fits_operations fits).2 o (List.mem_of_getElem? there)
  exact ((fits_auth operation).2 x.entry (List.mem_of_getElem? found)).2

variable {networkId networkId' : Octets 32} {x x' : LocatedEntry} {proof : Proof}

/-- The two entries are about different authorizations. -/
def LocatedEntry.Moved (networkId : Octets 32) (x : LocatedEntry) (networkId' : Octets 32)
    (x' : LocatedEntry) : Prop :=
  networkId' ≠ networkId ∨ x'.credentials.nonce ≠ x.credentials.nonce ∨
    x'.credentials.expiration ≠ x.credentials.expiration ∨
    x'.entry.rootInvocation ≠ x.entry.rootInvocation

/-- Different authorizations have different payloads. -/
theorem payload_ne_of_moved (fits : x.entry.rootInvocation.Fits) (fits' : x'.entry.rootInvocation.Fits)
    (moved : x.Moved networkId networkId' x') :
    (x.payload networkId).bytes ≠ (x'.payload networkId').bytes := by
  intro same
  obtain ⟨network, nonce, expiration, invocation⟩ :=
    Payload.mk.inj (Payload.eq_of_bytes (p := x.payload networkId) fits fits' same)
  rcases moved with other | other | other | other
  · exact other network.symm
  · exact other nonce.symm
  · exact other expiration.symm
  · exact other invocation.symm

/-- A proof that holds for two payloads shows a collision or is ambiguous. -/
theorem collision_or_ambiguous (different : (x.payload networkId).bytes ≠ (x'.payload networkId').bytes)
    (first : proof.Accepts (x.signedDigest networkId)) (second : proof.Accepts (x'.signedDigest networkId')) :
    Collision (x.payload networkId).bytes (x'.payload networkId').bytes ∨
      proof.Ambiguous (x.signedDigest networkId) (x'.signedDigest networkId') := by
  by_cases same : x.signedDigest networkId = x'.signedDigest networkId'
  · exact .inl ⟨different, same⟩
  · exact .inr ⟨same, first, second⟩

/-- So where neither happens, a signature that is moved is invalid in its new place. -/
theorem fault_of_moved (proven : x.Proven networkId proof)
    (kept : x'.credentials.signature = x.credentials.signature)
    (different : (x.payload networkId).bytes ≠ (x'.payload networkId').bytes)
    (noCollision : ¬ Collision (x.payload networkId).bytes (x'.payload networkId').bytes)
    (unambiguous : ¬ proof.Ambiguous (x.signedDigest networkId) (x'.signedDigest networkId')) :
    x'.Fault networkId' (.invalidSignature x'.position proof.publicKey) := by
  refine .invalid proof (kept.trans proven.stored) (.inr ?_)
  intro accepted
  rcases collision_or_ambiguous different proven.accepts accepted with collision | ambiguous
  · exact noCollision collision
  · exact unambiguous ambiguous

/-! ## A fault somewhere in a walk -/

/-- Entries that stand before another one in a walk have positions before it. -/
theorem before_of_split {t : Transaction} {earlier later : List LocatedEntry}
    (split : t.addressEntries = earlier ++ x :: later) : ∀ y ∈ earlier, y.position.Before x.position := by
  have ordered := address_entries_ordered t
  rw [split] at ordered
  intro y member
  exact (List.pairwise_append.mp ordered).2.2 y member x List.mem_cons_self

/-- One entry with a fault is enough for a verification to fail. -/
theorem result_of_some_fault {xs : List LocatedEntry} {e : VerifyError} (member : x ∈ xs)
    (fault : x.Fault networkId e) : ∃ error, (Verification.ofEntries networkId xs).result = .error error := by
  cases answer : (Verification.ofEntries networkId xs).result with
  | error error => exact ⟨error, rfl⟩
  | ok list =>
    obtain ⟨proofOf, proven, _⟩ := result_eq_ok_iff.mp answer
    have verified := LocatedEntry.verify_of_proven (proven x member)
    rw [LocatedEntry.verify_of_fault fault] at verified
    cases verified

/-- If all entries at positions before the fault verify, the fault is what is reported. -/
theorem result_of_fault_at {t : Transaction} {e : VerifyError} (member : x ∈ t.addressEntries)
    (fault : x.Fault networkId e)
    (before : ∀ y ∈ t.addressEntries, y.position.Before x.position → ∃ v, y.verify networkId = .ok v) :
    (Verification.ofEntries networkId t.addressEntries).result = .error e := by
  obtain ⟨earlier, later, split⟩ := List.append_of_mem member
  have proven : ∀ y ∈ earlier, ∃ proof, y.Proven networkId proof := by
    intro y front
    have located : y ∈ t.addressEntries := by
      rw [split]
      exact List.mem_append_left _ front
    obtain ⟨v, verifies⟩ := before y located (before_of_split split y front)
    obtain ⟨proof, proven, _⟩ := LocatedEntry.verify_eq_ok_iff.mp verifies
    exact ⟨proof, proven⟩
  rw [split]
  exact result_of_fault proven fault later

/-- A verified signature cannot be moved. Take a located entry of an envelope that verifies, and an
entry at the same position of another envelope, or of the same for another network, with the same
signature but another network, nonce, expiration or root invocation. Their payloads differ, and if the
second entry verifies, then either the payloads have the same digest, or the signature is valid for
two digests. So unless one of the two happens, the second envelope does not verify, and if all
entries before that position do, the error is an invalid signature there. -/
theorem moved_signature_fails {signed signed' : SignedTransaction} {list : List Verified}
    {walk walk' : Cursor} (fits : (Envelope.v1 signed).Fits) (fits' : (Envelope.v1 signed').Fits)
    (verified : (Envelope.v1 signed).verify networkId = .ok list)
    (found : (Envelope.v1 signed).locate = .ok walk) (found' : (Envelope.v1 signed').locate = .ok walk')
    (located : x ∈ walk.rest) (located' : x' ∈ walk'.rest) (place : x'.position = x.position)
    (kept : x'.credentials.signature = x.credentials.signature)
    (moved : x.Moved networkId networkId' x') :
    ∃ proof : Proof, x.credentials.signature = proof.toValue ∧
      (x.payload networkId).bytes ≠ (x'.payload networkId').bytes ∧
      ((∃ v, x'.verify networkId' = .ok v) →
        Collision (x.payload networkId).bytes (x'.payload networkId').bytes ∨
          proof.Ambiguous (x.signedDigest networkId) (x'.signedDigest networkId')) ∧
      (¬ Collision (x.payload networkId).bytes (x'.payload networkId').bytes →
        ¬ proof.Ambiguous (x.signedDigest networkId) (x'.signedDigest networkId') →
        (∃ error, (Envelope.v1 signed').verify networkId' = .error error) ∧
        ((∀ y ∈ walk'.rest, y.position.Before x.position → ∃ v, y.verify networkId' = .ok v) →
          (Envelope.v1 signed').verify networkId' = .error (.invalidSignature x.position proof.publicKey))) := by
  cases found
  cases found'
  rw [Cursor.rest_ofTransaction] at located located' ⊢
  rw [verify_v1] at verified ⊢
  obtain ⟨proofOf, proven, _⟩ := result_eq_ok_iff.mp verified
  have held := proven x located
  have different := payload_ne_of_moved
    (located_invocation_fits (fits_v1.mp (Envelope.fits_iff.mpr fits)).1 located)
    (located_invocation_fits (fits_v1.mp (Envelope.fits_iff.mpr fits')).1 located') moved
  refine ⟨proofOf x, held.stored, different, ?_, ?_⟩
  · rintro ⟨v, verifies⟩
    obtain ⟨proof, ⟨stored, _, accepted⟩, _⟩ := LocatedEntry.verify_eq_ok_iff.mp verifies
    obtain rfl := Proof.toValue_injective (stored.symm.trans (kept.trans held.stored))
    exact collision_or_ambiguous different held.accepts accepted
  · intro noCollision unambiguous
    have fault := fault_of_moved held kept different noCollision unambiguous
    rw [place] at fault
    refine ⟨result_of_some_fault located' fault, ?_⟩
    intro before
    rw [← place] at before
    exact result_of_fault_at located' fault before

namespace Sample

/-- One operation with two entries, each with the signature of the fulfilled one, the second
under this nonce. -/
def doubled (nonce : Int64) : SignedTransaction :=
  transaction [invoking [.address fulfilled, .address { fulfilled with nonce }]]

theorem doubled_fits (nonce : Int64) : Envelope.Fits (.v1 (doubled nonce)) := by
  have signature : fulfilled.signature.Fits := Proof.toValue_fits _
  exact invoking_fits (by decide : 2 ≤ unbounded)
    (List.forall_mem_cons.mpr ⟨signature, List.forall_mem_singleton.mpr signature⟩)

/-- The second entry of that operation. -/
def second (nonce : Int64) : LocatedEntry :=
  ⟨⟨0, 1⟩, ⟨.address { fulfilled with nonce }, invocation⟩, { fulfilled with nonce }⟩

/-- The proof of the fulfilled entry. -/
def fulfilledProof : Proof := ⟨Ed25519.publicKey secret.seed, Ed25519.sign secret.seed digest.toBytes⟩

theorem doubled_verifies : ∃ list, (Envelope.v1 (doubled 1)).verify Network.testnet.id = .ok list := by
  refine ⟨_, (verify_v1 _ _).trans (result_eq_ok_iff.mpr ⟨fun _ => fulfilledProof, ?_, rfl⟩)⟩
  exact List.forall_mem_cons.mpr
    ⟨fulfilled_proven ⟨0, 0⟩, List.forall_mem_singleton.mpr (fulfilled_proven ⟨0, 1⟩)⟩

theorem second_collides_not : ¬ Collision ((second 1).payload Network.testnet.id).bytes
    ((second 2).payload Network.testnet.id).bytes := by
  rintro ⟨_, same⟩
  exact absurd same (by decide +kernel)

theorem second_unambiguous : ¬ fulfilledProof.Ambiguous ((second 1).signedDigest Network.testnet.id)
    ((second 2).signedDigest Network.testnet.id) := by
  rintro ⟨_, _, accepted⟩
  exact absurd accepted (by decide +kernel)

end Sample

theorem moved_signature_fails_doubled :
    (Envelope.v1 (Sample.doubled 1)).Fits ∧ (Envelope.v1 (Sample.doubled 2)).Fits ∧
      (∃ list, (Envelope.v1 (Sample.doubled 1)).verify Network.testnet.id = .ok list) ∧
      (Sample.second 1).Moved Network.testnet.id Network.testnet.id (Sample.second 2) ∧
      (Envelope.v1 (Sample.doubled 2)).verify Network.testnet.id =
        .error (.invalidSignature ⟨0, 1⟩ Sample.fulfilledProof.publicKey) := by
  have moved : (Sample.second 1).Moved Network.testnet.id Network.testnet.id (Sample.second 2) :=
    .inr (.inl (by decide))
  refine ⟨Sample.doubled_fits 1, Sample.doubled_fits 2, Sample.doubled_verifies, moved, ?_⟩
  obtain ⟨list, verified⟩ := Sample.doubled_verifies
  have located : ∀ nonce, Sample.second nonce ∈ (Sample.doubled nonce).transaction.addressEntries :=
    fun nonce => List.mem_cons_of_mem _ List.mem_cons_self
  have walked : ∀ nonce, Sample.second nonce ∈
      (Cursor.ofTransaction (Sample.doubled nonce).transaction).rest := by
    intro nonce
    rw [Cursor.rest_ofTransaction]
    exact located nonce
  obtain ⟨proof, stored, _, _, fails⟩ := moved_signature_fails (Sample.doubled_fits 1)
    (Sample.doubled_fits 2) verified (locate_v1 _) (locate_v1 _) (walked 1) (walked 2) rfl rfl moved
  obtain rfl : Sample.fulfilledProof = proof := Proof.toValue_injective stored
  refine (fails Sample.second_collides_not Sample.second_unambiguous).2 ?_
  intro y member before
  rw [Cursor.rest_ofTransaction] at member
  rcases List.mem_cons.mp member with rfl | member
  · exact ⟨_, LocatedEntry.verify_of_proven (Sample.fulfilled_proven ⟨0, 0⟩)⟩
  · rw [List.mem_singleton.mp member] at before
    have itself : ¬ Position.Before ⟨0, 1⟩ ⟨0, 1⟩ := by simp [Position.Before]
    exact absurd before itself

end AuthSigner
