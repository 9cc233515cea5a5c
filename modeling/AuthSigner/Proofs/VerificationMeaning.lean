import AuthSigner.Proofs.SignedText

/-! What a verification says. An entry verifies exactly if its signature is the stored form of
a proof that is genuine for the entry's own payload, and otherwise it has one fault. A whole
verification is told by the faults alone: it lists all entries if there is none, and reports
the first one otherwise. -/
namespace AuthSigner
open Edwards25519 (Point)

/-- Nothing is accepted under a key that stands for no point. -/
theorem Ed25519.verifyStrict_of_undecoded {key : Octets 32} (undecoded : Point.decompress? key = none)
    (message : Bytes) (signature : Octets 64) : verifyStrict key message signature = false := by
  -- The function is opened before it gets its arguments, since with them its match would be
  -- evaluated.
  have opened : @verifyStrict = @verifyStrict := rfl
  conv at opened => rhs; delta verifyStrict
  simp only [opened, undecoded]

namespace Proof

theorem entryBytes_eq_some_iff {name : String} {entry : Value × Value} {data : Bytes} :
    entryBytes? name entry = some data ↔ entry = (symbol name, .scalar (.bytes data)) := by
  constructor
  · intro found
    unfold entryBytes? at found
    split at found
    · split at found
      · rename_i named
        cases found
        rw [named]
        rfl
      · cases found
    · cases found
  · rintro rfl
    exact if_pos rfl

/-- A value is read as a proof exactly if it is what that proof is stored as. -/
theorem ofValue_eq_some_iff {v : Value} {p : Proof} : ofValue? v = some p ↔ v = p.toValue := by
  constructor
  · intro read
    unfold ofValue? at read
    split at read
    · obtain ⟨keyBytes, keyEntry, read⟩ := Option.bind_eq_some_iff.mp read
      obtain ⟨publicKey, ofKey, read⟩ := Option.bind_eq_some_iff.mp read
      obtain ⟨signatureBytes, signatureEntry, read⟩ := Option.bind_eq_some_iff.mp read
      obtain ⟨signature, ofSignature, made⟩ := Option.bind_eq_some_iff.mp read
      cases made
      rw [entryBytes_eq_some_iff.mp keyEntry, entryBytes_eq_some_iff.mp signatureEntry,
        ← Octets.ofBytes?_eq_some_iff.mp ofKey, ← Octets.ofBytes?_eq_some_iff.mp ofSignature]
      rfl
    · cases read
  · rintro rfl
    exact ofValue_toValue p

/-- Different proofs are stored as different values. -/
theorem toValue_injective {p q : Proof} (same : p.toValue = q.toValue) : p = q := by
  have read := ofValue_toValue p
  rw [same, ofValue_toValue q] at read
  exact (Option.some.inj read).symm

theorem toValue_ne_void (p : Proof) : p.toValue ≠ .scalar .void := nofun

/-- The public key of the proof is the encoding of a point of the curve. -/
def Decodes (p : Proof) : Prop := (Point.decompress? p.publicKey).isSome = true

/-- The signature of the proof is a strictly valid one of this digest. -/
def Accepts (p : Proof) (digest : Octets 32) : Prop :=
  Ed25519.verifyStrict p.publicKey digest.toBytes p.signature = true

instance (p : Proof) (digest : Octets 32) : Decidable (p.Accepts digest) :=
  inferInstanceAs (Decidable (_ = true))

theorem decodes_of_accepts {p : Proof} {digest : Octets 32} (accepted : p.Accepts digest) : p.Decodes := by
  unfold Decodes
  cases key : Point.decompress? p.publicKey with
  | none =>
    have refused := Ed25519.verifyStrict_of_undecoded key digest.toBytes p.signature
    exact absurd (refused.symm.trans accepted) Bool.false_ne_true
  | some point => rfl

end Proof

namespace LocatedEntry

/-- What the signature of an entry has to be one of: the digest of the payload made of the
network, the entry's nonce and expiration as they stand, and its root invocation. -/
def signedDigest (networkId : Octets 32) (x : LocatedEntry) : Octets 32 :=
  sha256 (Payload.mk networkId x.credentials.nonce x.credentials.expiration x.entry.rootInvocation).bytes

/-- The entry stores this proof, and the proof holds. -/
structure Proven (networkId : Octets 32) (x : LocatedEntry) (proof : Proof) : Prop where
  stored : x.credentials.signature = proof.toValue
  decodes : proof.Decodes
  accepts : proof.Accepts (x.signedDigest networkId)

/-- What is wrong with an entry, as the error that reports it. -/
inductive Fault (networkId : Octets 32) (x : LocatedEntry) : VerifyError → Prop where
  /-- There is no signature. -/
  | missing (unsigned : x.credentials.signature = .scalar .void) :
    Fault networkId x (.missingSignature x.position)
  /-- There is something else, but no proof is stored as that. -/
  | malformed (present : x.credentials.signature ≠ .scalar .void)
      (strange : ∀ proof : Proof, x.credentials.signature ≠ proof.toValue) :
    Fault networkId x (.malformedSignature x.position)
  /-- There is a proof, and its key does not decode or the check fails. -/
  | invalid (proof : Proof) (stored : x.credentials.signature = proof.toValue)
      (refused : ¬ proof.Decodes ∨ ¬ proof.Accepts (x.signedDigest networkId)) :
    Fault networkId x (.invalidSignature x.position proof.publicKey)

/-- What is reported of an entry whose proof holds. -/
def report (networkId : Octets 32) (x : LocatedEntry) (proof : Proof) : Verified :=
  ⟨x.position, proof.publicKey, x.signedDigest networkId⟩

/-- All of an entry that a verification looks at. -/
def evidence (x : LocatedEntry) : Position × Int64 × UInt32 × Value × Invocation :=
  (x.position, x.credentials.nonce, x.credentials.expiration, x.credentials.signature,
    x.entry.rootInvocation)

variable {networkId : Octets 32} {x y : LocatedEntry} {proof : Proof} {v : Verified} {e : VerifyError}

/-! ## One entry -/

theorem verify_of_proven (proven : x.Proven networkId proof) :
    x.verify networkId = .ok (x.report networkId proof) := by
  refine verify_of_proof ?_ proven.accepts
  rw [proven.stored]
  exact Proof.ofValue_toValue proof

theorem verify_of_fault (fault : x.Fault networkId e) : x.verify networkId = .error e := by
  unfold verify
  cases fault with
  | missing unsigned => rw [unsigned]
  | malformed present strange =>
    have unread : Proof.ofValue? x.credentials.signature = none := by
      refine Option.eq_none_iff_forall_ne_some.mpr ?_
      intro proof read
      exact strange proof (Proof.ofValue_eq_some_iff.mp read)
    split
    · rename_i unsigned
      exact absurd unsigned present
    · rw [unread]
  | invalid proof stored refused =>
    have rejected : ¬ proof.Accepts (x.signedDigest networkId) := by
      rcases refused with undecoded | rejected
      · exact fun accepted => undecoded (Proof.decodes_of_accepts accepted)
      · exact rejected
    have read := Proof.ofValue_toValue proof
    split
    · rename_i unsigned
      exact absurd (stored.symm.trans unsigned) proof.toValue_ne_void
    · rw [stored, read]
      exact if_neg rejected

/-- An entry has a proof that holds, or it has a fault. -/
theorem proven_or_fault (networkId : Octets 32) (x : LocatedEntry) :
    (∃ proof, x.Proven networkId proof) ∨ ∃ e, x.Fault networkId e := by
  by_cases unsigned : x.credentials.signature = .scalar .void
  · exact .inr ⟨_, .missing unsigned⟩
  · by_cases stores : ∃ proof : Proof, x.credentials.signature = proof.toValue
    · obtain ⟨proof, stored⟩ := stores
      by_cases accepted : proof.Accepts (x.signedDigest networkId)
      · exact .inl ⟨proof, stored, Proof.decodes_of_accepts accepted, accepted⟩
      · exact .inr ⟨_, .invalid proof stored (.inr accepted)⟩
    · exact .inr ⟨_, .malformed unsigned (not_exists.mp stores)⟩

theorem verify_eq_ok_iff :
    x.verify networkId = .ok v ↔ ∃ proof, x.Proven networkId proof ∧ v = x.report networkId proof := by
  constructor
  · intro verified
    rcases proven_or_fault networkId x with ⟨proof, proven⟩ | ⟨e, fault⟩
    · rw [verify_of_proven proven] at verified
      exact ⟨proof, proven, (Except.ok.inj verified).symm⟩
    · rw [verify_of_fault fault] at verified
      cases verified
  · rintro ⟨proof, proven, rfl⟩
    exact verify_of_proven proven

/-- Entries with the same evidence get the same answer. -/
theorem verify_congr (same : x.evidence = y.evidence) : x.verify networkId = y.verify networkId := by
  simp only [evidence, Prod.mk.injEq] at same
  obtain ⟨position, nonce, expiration, signature, invocation⟩ := same
  have payload : x.payload networkId = y.payload networkId := by
    simp only [LocatedEntry.payload, nonce, expiration, invocation]
  simp only [verify, position, signature, payload]

end LocatedEntry

/-! ## One entry after the other -/

variable {networkId : Octets 32} {x : LocatedEntry} {xs earlier later : List LocatedEntry}
  {list : List Verified} {e : VerifyError}

/-- Entries that are all proven verify, each reported in its place. -/
theorem result_of_proven {proofOf : LocatedEntry → Proof}
    (each : ∀ x ∈ xs, x.Proven networkId (proofOf x)) :
    (Verification.ofEntries networkId xs).result = .ok (xs.map fun x => x.report networkId (proofOf x)) := by
  have verified : ∀ x ∈ xs, (id x).verify networkId = .ok (x.report networkId (proofOf x)) :=
    fun x member => LocatedEntry.verify_of_proven (each x member)
  have all := ofEntries_of_verified verified
  rw [List.map_id] at all
  rw [all]
  rfl

/-- A fault behind proven entries is what is reported, whatever follows. -/
theorem result_of_fault (proven : ∀ y ∈ earlier, ∃ proof, y.Proven networkId proof)
    (fault : x.Fault networkId e) (later : List LocatedEntry) :
    (Verification.ofEntries networkId (earlier ++ x :: later)).result = .error e := by
  induction earlier with
  | nil =>
    rw [List.nil_append, Verification.ofEntries, LocatedEntry.verify_of_fault fault]
    rfl
  | cons y earlier ih =>
    rw [List.forall_mem_cons] at proven
    obtain ⟨proof, first⟩ := proven.1
    have rest := ih proven.2
    rw [List.cons_append, Verification.ofEntries, LocatedEntry.verify_of_proven first]
    unfold Verification.result at rest ⊢
    cases stopped : (Verification.ofEntries networkId (earlier ++ x :: later)).fault with
    | none =>
      rw [stopped] at rest
      cases rest
    | some fault =>
      rw [stopped] at rest
      exact rest

/-- Either all entries are proven, or one of them is the first that is not. -/
theorem proven_or_first_fault (networkId : Octets 32) (xs : List LocatedEntry) :
    (∀ x ∈ xs, ∃ proof, x.Proven networkId proof) ∨
      ∃ earlier x later e, xs = earlier ++ x :: later ∧
        (∀ y ∈ earlier, ∃ proof, y.Proven networkId proof) ∧ x.Fault networkId e := by
  induction xs with
  | nil => exact .inl (List.forall_mem_nil _)
  | cons x xs ih =>
    rcases LocatedEntry.proven_or_fault networkId x with proven | ⟨e, fault⟩
    · rcases ih with all | ⟨earlier, y, later, e, rfl, before, fault⟩
      · exact .inl (List.forall_mem_cons.mpr ⟨proven, all⟩)
      · exact .inr ⟨x :: earlier, y, later, e, rfl, List.forall_mem_cons.mpr ⟨proven, before⟩, fault⟩
    · exact .inr ⟨[], x, xs, e, rfl, List.forall_mem_nil _, fault⟩

/-- The proofs that entries store, if each stores one. -/
theorem exists_proofs (each : ∀ x ∈ xs, ∃ proof, x.Proven networkId proof) :
    ∃ proofOf : LocatedEntry → Proof, ∀ x ∈ xs, x.Proven networkId (proofOf x) := by
  refine ⟨fun x => (Proof.ofValue? x.credentials.signature).getD ⟨.zero 32, .zero 64⟩, ?_⟩
  intro x member
  obtain ⟨proof, proven⟩ := each x member
  have read := Proof.ofValue_toValue proof
  rw [← proven.stored] at read
  simp only [read, Option.getD_some]
  exact proven

theorem result_eq_ok_iff : (Verification.ofEntries networkId xs).result = .ok list ↔
    ∃ proofOf : LocatedEntry → Proof, (∀ x ∈ xs, x.Proven networkId (proofOf x)) ∧
      list = xs.map fun x => x.report networkId (proofOf x) := by
  constructor
  · intro verified
    rcases proven_or_first_fault networkId xs with all | ⟨earlier, x, later, e, rfl, before, fault⟩
    · obtain ⟨proofOf, each⟩ := exists_proofs all
      rw [result_of_proven each] at verified
      exact ⟨proofOf, each, (Except.ok.inj verified).symm⟩
    · rw [result_of_fault before fault later] at verified
      cases verified
  · rintro ⟨proofOf, each, rfl⟩
    exact result_of_proven each

theorem result_eq_error_iff : (Verification.ofEntries networkId xs).result = .error e ↔
    ∃ earlier x later, xs = earlier ++ x :: later ∧
      (∀ y ∈ earlier, ∃ proof, y.Proven networkId proof) ∧ x.Fault networkId e := by
  constructor
  · intro failed
    rcases proven_or_first_fault networkId xs with all | ⟨earlier, x, later, e', rfl, before, fault⟩
    · obtain ⟨proofOf, each⟩ := exists_proofs all
      rw [result_of_proven each] at failed
      cases failed
    · rw [result_of_fault before fault later] at failed
      cases failed
      exact ⟨earlier, x, later, rfl, before, fault⟩
  · rintro ⟨earlier, x, later, rfl, before, fault⟩
    exact result_of_fault before fault later

/-! ## What a verification looks at -/

/-- Lists of entries with the same evidence get the same answer. -/
theorem ofEntries_congr {ys : List LocatedEntry}
    (same : xs.map LocatedEntry.evidence = ys.map LocatedEntry.evidence) :
    Verification.ofEntries networkId xs = Verification.ofEntries networkId ys := by
  induction xs generalizing ys with
  | nil =>
    rw [List.map_nil, eq_comm, List.map_eq_nil_iff] at same
    rw [same]
  | cons x xs ih =>
    obtain ⟨y, ys, rfl, first, rest⟩ := List.map_eq_cons_iff.mp same.symm
    rw [Verification.ofEntries, Verification.ofEntries, LocatedEntry.verify_congr first.symm, ih rest.symm]

/-- After an error no further entry matters. -/
theorem result_append_of_error (failed : (Verification.ofEntries networkId xs).result = .error e)
    (ys : List LocatedEntry) : (Verification.ofEntries networkId (xs ++ ys)).result = .error e := by
  obtain ⟨earlier, x, later, rfl, before, fault⟩ := result_eq_error_iff.mp failed
  rw [List.append_assoc, List.cons_append]
  exact result_of_fault before fault (later ++ ys)

/-- The answer to a fault stays if nothing changes up to its entry. -/
theorem result_of_same_front {ys : List LocatedEntry}
    (proven : ∀ y ∈ earlier, ∃ proof, y.Proven networkId proof) (fault : x.Fault networkId e)
    (same : (earlier ++ [x]).map LocatedEntry.evidence <+: ys.map LocatedEntry.evidence) :
    (Verification.ofEntries networkId ys).result = .error e := by
  obtain ⟨more, same⟩ := same
  obtain ⟨front, back, rfl, agree, _⟩ := List.map_eq_append_iff.mp same.symm
  refine result_append_of_error ?_ back
  rw [ofEntries_congr agree]
  exact result_of_fault proven fault []

/-! ## The whole envelope -/

theorem verify_v1 (networkId : Octets 32) (signed : SignedTransaction) :
    (Envelope.v1 signed).verify networkId =
      (Verification.ofEntries networkId signed.transaction.addressEntries).result := by
  rw [← Cursor.rest_ofTransaction]
  rfl

/-- The exact meaning of a verification and of its error. Envelopes of the other kinds are
refused by their kind. A transaction's envelope verifies exactly if every located entry stores
a proof whose key decodes and which is strictly valid for the entry as it stands; then each
is reported in its place, with the key of its proof and the digest of its payload. Otherwise the
error is the fault of the first located entry that is not proven. So only the positions, nonces,
expirations, signatures and root invocations of the located entries matter, and those behind
the first fault do not. -/
theorem verification_reports_first_fault (networkId : Octets 32) :
    (∀ t, (Envelope.v0 t).verify networkId = .error (.unsupported .v0)) ∧
    (∀ t, (Envelope.feeBump t).verify networkId = .error (.unsupported .feeBump)) ∧
    ∀ signed : SignedTransaction, ∃ walk, (Envelope.v1 signed).locate = .ok walk ∧
      (∀ list, (Envelope.v1 signed).verify networkId = .ok list ↔
        ∃ proofOf : LocatedEntry → Proof, (∀ x ∈ walk.rest, x.Proven networkId (proofOf x)) ∧
          list = walk.rest.map fun x => x.report networkId (proofOf x)) ∧
      (∀ error, (Envelope.v1 signed).verify networkId = .error error ↔
        ∃ earlier x later, walk.rest = earlier ++ x :: later ∧
          (∀ y ∈ earlier, ∃ proof, y.Proven networkId proof) ∧ x.Fault networkId error) ∧
      ∀ (other : SignedTransaction) (walk' : Cursor), (Envelope.v1 other).locate = .ok walk' →
        (walk'.rest.map LocatedEntry.evidence = walk.rest.map LocatedEntry.evidence →
          (Envelope.v1 other).verify networkId = (Envelope.v1 signed).verify networkId) ∧
        ∀ earlier x later error, walk.rest = earlier ++ x :: later →
          (∀ y ∈ earlier, ∃ proof, y.Proven networkId proof) → x.Fault networkId error →
          (earlier ++ [x]).map LocatedEntry.evidence <+: walk'.rest.map LocatedEntry.evidence →
          (Envelope.v1 other).verify networkId = (Envelope.v1 signed).verify networkId := by
  refine ⟨fun t => rfl, fun t => rfl, ?_⟩
  intro signed
  refine ⟨_, locate_v1 signed, ?_⟩
  rw [Cursor.rest_ofTransaction, verify_v1]
  refine ⟨fun list => result_eq_ok_iff, fun error => result_eq_error_iff, ?_⟩
  intro other walk' found
  cases found
  rw [Cursor.rest_ofTransaction, verify_v1]
  constructor
  · intro same
    rw [ofEntries_congr same]
  · intro earlier x later error located proven fault same
    rw [located, result_of_fault proven fault later]
    exact result_of_same_front proven fault same

namespace Sample

/-- The credentials of the single entry after the request was fulfilled. -/
def fulfilled : AddressCredentials :=
  (unsigned 1).withProof 1000 ⟨Ed25519.publicKey secret.seed, Ed25519.sign secret.seed digest.toBytes⟩

/-- An entry that is signed, one that is not, and one with something else for a signature. -/
def halfway : SignedTransaction :=
  transaction [invoking [.sourceAccount, .address fulfilled], ⟨none, .bumpSequence 7⟩,
    invoking [.address (unsigned 2), .address { unsigned 3 with signature := .scalar (.u32 1) }]]

/-- The same up to the second entry, with another address, another operation and nothing behind. -/
def halfwayElsewhere : SignedTransaction :=
  transaction [invoking [.sourceAccount, .address { fulfilled with address := .contract (.zero 32) }],
    ⟨none, .bumpSequence 8⟩, invoking [.address (unsigned 2)]]

theorem fulfilled_proven (p : Position) : LocatedEntry.Proven Network.testnet.id
    ⟨p, ⟨.address fulfilled, invocation⟩, fulfilled⟩
    ⟨Ed25519.publicKey secret.seed, Ed25519.sign secret.seed digest.toBytes⟩ := by
  have genuine : Ed25519.verifyStrict (Ed25519.publicKey secret.seed) digest.toBytes
      (Ed25519.sign secret.seed digest.toBytes) = true :=
    single_genuine [⟨⟨0, 0⟩, digest⟩] single_signed ⟨⟨0, 0⟩, digest⟩ List.mem_cons_self
  exact ⟨rfl, Proof.decodes_of_accepts genuine, genuine⟩

end Sample

theorem verification_reports_halfway :
    (Envelope.v1 Sample.halfway).verify Network.testnet.id = .error (.missingSignature ⟨2, 0⟩) ∧
      (Envelope.v1 Sample.halfwayElsewhere).verify Network.testnet.id =
        .error (.missingSignature ⟨2, 0⟩) := by
  obtain ⟨_, _, meaning⟩ := verification_reports_first_fault Network.testnet.id
  obtain ⟨walk, found, _, fails, alike⟩ := meaning Sample.halfway
  cases found
  rw [Cursor.rest_ofTransaction] at fails alike
  have first : ∀ y ∈ [LocatedEntry.mk ⟨0, 1⟩ ⟨.address Sample.fulfilled, Sample.invocation⟩ Sample.fulfilled],
      ∃ proof, y.Proven Network.testnet.id proof :=
    List.forall_mem_singleton.mpr ⟨_, Sample.fulfilled_proven ⟨0, 1⟩⟩
  have failed : (Envelope.v1 Sample.halfway).verify Network.testnet.id = .error (.missingSignature ⟨2, 0⟩) :=
    (fails _).mpr ⟨_, _, _, rfl, first, .missing rfl⟩
  refine ⟨failed, ?_⟩
  obtain ⟨_, front⟩ := alike Sample.halfwayElsewhere _ (locate_v1 _)
  rw [Cursor.rest_ofTransaction] at front
  exact (front _ _ _ _ rfl first (.missing rfl) ⟨[], rfl⟩).trans failed

end AuthSigner
