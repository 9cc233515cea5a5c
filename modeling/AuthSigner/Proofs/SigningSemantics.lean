import AuthSigner.Proofs.EntrySigning

/-! Signing an envelope. What becomes of it is told by the signatures of the
digests of its located entries, made one after the other: if none is refused,
exactly the located entries are completed, each with its own signature. -/
namespace AuthSigner

variable {σ : Type} {r : SigningRequest σ} {s s' : σ} {signed : SignedTransaction}

/-- Where each digest gets its signature, exactly the located entries are completed, and the user is
told of one after the other. -/
theorem sign_told_of_signatures {signatureOf : LocatedEntry → Octets 64} (bounded : signed.transaction.Bounded)
    (made : (r.signer.signAll (signed.transaction.addressEntries.map r.digest)).run.run s =
      (.ok (signed.transaction.addressEntries.map signatureOf), s')) :
    (Envelope.v1 signed).sign r s = ⟨.ok (signed.transaction.addressEntries.map r.note),
      .v1 (signed.withCredentials fun x => r.completed x (signatureOf x)),
      (signed.transaction.addressEntries.flatMap fun x => r.account x (signatureOf x)) ++
        [.logged (SigningRequest.finishedRecord signed.transaction.addressEntries.length)], s'⟩ := by
  obtain ⟨left, ended⟩ := SigningRequest.calls_of_signatures ⟨s, [], []⟩ made
  have given := Editor.given_of_success ended
  have agree : ∀ call ∈ r.editor.calls ⟨s, [], []⟩ signed.transaction.addressEntries,
      r.completed call.given (signatureOf call.given) = call.left := by
    rw [List.zipWith_map_right, List.zipWith_self] at left
    conv at left => rhs; rw [← given, List.map_map]
    exact fun call member => (List.map_inj_left.mp left call member).symm
  have ran := edit_run_of_success (fun x => r.completed x (signatureOf x)) bounded agree ended
  unfold Envelope.sign
  rw [ran]
  simp only [List.nil_append, List.zipWith_map_right, List.zipWith_self, List.length_map, List.flatMap_def]

theorem sign_of_signatures {signatureOf : LocatedEntry → Octets 64} (bounded : signed.transaction.Bounded)
    (made : (r.signer.signAll (signed.transaction.addressEntries.map r.digest)).run.run s =
      (.ok (signed.transaction.addressEntries.map signatureOf), s')) :
    ∃ transcript, (Envelope.v1 signed).sign r s = ⟨.ok (signed.transaction.addressEntries.map r.note),
      .v1 (signed.withCredentials fun x => r.completed x (signatureOf x)), transcript, s'⟩ :=
  ⟨_, sign_told_of_signatures bounded made⟩

/-- Where a digest is refused, the envelope stays. -/
theorem sign_of_refusal {cause : SigningError} (bounded : signed.transaction.Bounded)
    (refused : (r.signer.signAll (signed.transaction.addressEntries.map r.digest)).run.run s =
      (.error cause, s')) :
    ∃ transcript, (Envelope.v1 signed).sign r s = ⟨.error (.editor cause), .v1 signed, transcript, s'⟩ := by
  obtain ⟨transcript, noted, ended⟩ := SigningRequest.calls_of_refusal ⟨s, [], []⟩ refused
  have ran := edit_run_of_failure bounded ended
  unfold Envelope.sign
  rw [ran]
  exact ⟨_, rfl⟩

/-- A signing comes to what its digests come to: each gets its signature, or one is refused. -/
theorem sign_cases (bounded : signed.transaction.Bounded) (r : SigningRequest σ) (s : σ) :
    (∃ (signatureOf : LocatedEntry → Octets 64) (s' : σ) (transcript : Transcript),
      (r.signer.signAll (signed.transaction.addressEntries.map r.digest)).run.run s =
        (.ok (signed.transaction.addressEntries.map signatureOf), s') ∧
      (Envelope.v1 signed).sign r s = ⟨.ok (signed.transaction.addressEntries.map r.note),
        .v1 (signed.withCredentials fun x => r.completed x (signatureOf x)), transcript, s'⟩) ∨
    ∃ (cause : SigningError) (s' : σ) (transcript : Transcript),
      (r.signer.signAll (signed.transaction.addressEntries.map r.digest)).run.run s = (.error cause, s') ∧
      (Envelope.v1 signed).sign r s = ⟨.error (.editor cause), .v1 signed, transcript, s'⟩ := by
  rcases answered : (r.signer.signAll (signed.transaction.addressEntries.map r.digest)).run.run s with
    ⟨outcome, s'⟩
  cases outcome with
  | ok signatures =>
    have each := (Signer.signAll_length answered).trans (List.length_map _)
    obtain ⟨signatureOf, rfl⟩ :=
      exists_assignment (address_positions_distinct signed.transaction) each fun _ => .zero 64
    obtain ⟨transcript, came⟩ := sign_of_signatures bounded answered
    exact .inl ⟨signatureOf, s', transcript, rfl, came⟩
  | error cause =>
    obtain ⟨transcript, came⟩ := sign_of_refusal bounded answered
    exact .inr ⟨cause, s', transcript, rfl, came⟩

/-- A signer without a state makes each signature of its digest alone. -/
theorem Signer.signAll_of_function {signer : Signer σ} {f : Bytes → Octets 64}
    (function : ∀ blob s, (signer.signBlob blob).run.run s = (.ok (f blob), s)) (s : σ)
    (digests : List (Octets 32)) :
    (signer.signAll digests).run.run s = (.ok (digests.map fun digest => f digest.toBytes), s) := by
  induction digests with
  | nil => rfl
  | cons digest digests ih =>
    exact signAll_cons_eq_ok.mpr ⟨_, s, _, function digest.toBytes s, ih, rfl⟩

/-- With a secret, exactly the located entries are completed, each with the signature of
its own digest. -/
theorem sign_of_secret {r : SigningRequest Unit} {secret : Secret}
    (own : r.signer = .ofSecret secret) (bounded : signed.transaction.Bounded) :
    ∃ transcript, (Envelope.v1 signed).sign r () = ⟨.ok (signed.transaction.addressEntries.map r.note),
      .v1 (signed.withCredentials fun x => r.completed x (Ed25519.sign secret.seed (r.digest x).toBytes)),
      transcript, ()⟩ := by
  have function : ∀ blob s, (r.signer.signBlob blob).run.run s = (.ok (Ed25519.sign secret.seed blob), s) :=
    fun _ _ => by rw [own]; rfl
  have made := Signer.signAll_of_function function () (signed.transaction.addressEntries.map r.digest)
  rw [List.map_map] at made
  exact sign_of_signatures bounded made

/-- A signer that refuses nothing gives every digest a signature of its own. -/
theorem Signer.signAll_answers {signer : Signer σ}
    (answers : ∀ blob s, ∃ signature s', (signer.signBlob blob).run.run s = (.ok signature, s'))
    (s : σ) (digests : List (Octets 32)) :
    ∃ signatures s', (signer.signAll digests).run.run s = (.ok signatures, s') := by
  induction digests generalizing s with
  | nil => exact ⟨[], s, rfl⟩
  | cons digest digests ih =>
    obtain ⟨signature, between, first⟩ := answers digest.toBytes s
    obtain ⟨later, s', rest⟩ := ih between
    exact ⟨_, _, signAll_cons_eq_ok.mpr ⟨signature, between, later, first, rest, rfl⟩⟩

/-- The meaning of signing with a signer that never fails. Envelopes of the other
kinds are refused by their kind and stay. In a transaction's envelope exactly the
credentials at the walked positions change: address and nonce stay, the new
expiration and the proof of the signer's key are put in. Each signature is what the
signer made, in the order of the walk, of the digest of the entry's own nonce and
invocation with the new expiration, and these digests are returned. -/
theorem sign_completes_entries (r : SigningRequest σ) (s : σ)
    (answers : ∀ blob s, ∃ signature s', (r.signer.signBlob blob).run.run s = (.ok signature, s')) :
    (∀ t, ((Envelope.v0 t).sign r s).result = .error (.unsupported .v0) ∧
      ((Envelope.v0 t).sign r s).envelope = .v0 t) ∧
    (∀ t, ((Envelope.feeBump t).sign r s).result = .error (.unsupported .feeBump) ∧
      ((Envelope.feeBump t).sign r s).envelope = .feeBump t) ∧
    ∀ signed : SignedTransaction, signed.transaction.Bounded →
      ∃ (walk : Cursor) (digest : LocatedEntry → Octets 32) (signatureOf : LocatedEntry → Octets 64),
        (Envelope.v1 signed).locate = .ok walk ∧
        (walk.rest.map (·.position)).Nodup ∧
        (∀ x, digest x = sha256 (authorizationPreimage r.network x.credentials.nonce r.expiration
          x.entry.rootInvocation)) ∧
        (r.signer.signAll (walk.rest.map digest)).run.run s =
          (.ok (walk.rest.map signatureOf), ((Envelope.v1 signed).sign r s).signer) ∧
        ((Envelope.v1 signed).sign r s).result = .ok (walk.rest.map fun x => ⟨x.position, digest x⟩) ∧
        ((Envelope.v1 signed).sign r s).envelope = .v1 (signed.withCredentials fun x => {
          address := x.credentials.address
          nonce := x.credentials.nonce
          expiration := r.expiration
          signature := (Proof.mk r.signer.publicKey (signatureOf x)).toValue }) := by
  refine ⟨fun t => ⟨rfl, rfl⟩, fun t => ⟨rfl, rfl⟩, ?_⟩
  intro signed bounded
  have distinct := address_positions_distinct signed.transaction
  obtain ⟨signatures, s', made⟩ :=
    Signer.signAll_answers answers s (signed.transaction.addressEntries.map r.digest)
  have each : signatures.length = signed.transaction.addressEntries.length :=
    (Signer.signAll_length made).trans (List.length_map _)
  obtain ⟨signatureOf, rfl⟩ := exists_assignment distinct each fun _ => .zero 64
  obtain ⟨transcript, came⟩ := sign_of_signatures bounded made
  refine ⟨_, r.digest, signatureOf, locate_v1 signed, ?_⟩
  rw [Cursor.rest_ofTransaction, came]
  exact ⟨distinct, r.digest_eq, made, rfl, rfl⟩

/-- A request to sign with a fixed secret. -/
def Sample.request : SigningRequest Unit where
  network := .testnet
  signer := .ofSecret ⟨.zero 32⟩
  expiration := 1000
  printer := ⟨true, none⟩

theorem sign_completes_mixed :
    (∀ blob s, ∃ signature s', (Sample.request.signer.signBlob blob).run.run s = (.ok signature, s')) ∧
      Sample.mixed.transaction.Bounded ∧
      ∃ first second : Octets 32, ((Envelope.v1 Sample.mixed).sign Sample.request ()).result =
        .ok [⟨⟨0, 1⟩, first⟩, ⟨⟨2, 0⟩, second⟩] := by
  have answers : ∀ blob s, ∃ signature s',
      (Sample.request.signer.signBlob blob).run.run s = (.ok signature, s') := fun _ _ => ⟨_, _, rfl⟩
  refine ⟨answers, Sample.mixed_bounded, ?_⟩
  obtain ⟨_, _, signs⟩ := sign_completes_entries Sample.request () answers
  obtain ⟨walk, digest, _, found, _, _, _, result, _⟩ := signs Sample.mixed Sample.mixed_bounded
  cases found
  rw [Cursor.rest_ofTransaction] at result
  exact ⟨_, _, result⟩

end AuthSigner
