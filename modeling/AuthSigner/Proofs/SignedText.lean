import AuthSigner.Auth.Verify
import AuthSigner.Command.Run
import AuthSigner.Proofs.CredentialFits
import AuthSigner.Proofs.EntryIndependence
import AuthSigner.Proofs.PayloadInjectivity
import AuthSigner.Proofs.TextLaws

/-! What was signed, written as text and read again, verifies. Signing hashes the
payload with the expiration that is still to be written; verifying hashes what it
finds in the credentials after the text was read. Both are the same payload. -/
namespace AuthSigner
open Xdr

variable {σ : Type} {r : SigningRequest σ} {signed : SignedTransaction}
  {signatureOf : LocatedEntry → Octets 64}

/-! ## Proofs as values -/

theorem Proof.ofValue_toValue (p : Proof) : ofValue? p.toValue = some p := by
  change (do
    let publicKey ← Octets.ofBytes? 32 p.publicKey.toBytes
    let signature ← Octets.ofBytes? 64 p.signature.toBytes
    return Proof.mk publicKey signature) = some p
  simp only [Octets.ofBytes?_toBytes, bind, Option.bind]
  rfl

theorem Proof.toValue_fits (p : Proof) : p.toValue.Fits := by
  simp only [toValue, symbol, Value.Fits, Value.EntriesFit, Scalar.fits_iff, Scalar.Fits,
    p.publicKey.length_toBytes, p.signature.length_toBytes, List.length_cons, List.length_nil]
  decide

/-! ## Verifying what was signed -/

theorem verify_of_proof {networkId : Octets 32} {x : LocatedEntry} {proof : Proof}
    (stored : Proof.ofValue? x.credentials.signature = some proof)
    (genuine : Ed25519.verifyStrict proof.publicKey (x.payload networkId).digest.toBytes proof.signature =
      true) :
    x.verify networkId = .ok ⟨x.position, proof.publicKey, (x.payload networkId).digest⟩ := by
  unfold LocatedEntry.verify
  split
  · rename_i unsigned
    rw [unsigned] at stored
    cases stored
  · rw [stored]
    exact if_pos genuine

/-- An entry that was completed with a genuine signature verifies. -/
theorem verify_completed {x : LocatedEntry} {signature : Octets 64}
    (genuine : Ed25519.verifyStrict r.signer.publicKey (r.digest x).toBytes signature = true) :
    (x.withCredentials (r.completed x signature)).verify r.network.id =
      .ok ⟨x.position, r.signer.publicKey, r.digest x⟩ := by
  have same : (x.withCredentials (r.completed x signature)).payload r.network.id = r.payload x := rfl
  have stored : Proof.ofValue? (r.completed x signature).signature = some ⟨r.signer.publicKey, signature⟩ :=
    Proof.ofValue_toValue _
  refine (verify_of_proof stored ?_).trans ?_
  · rw [same]
    exact genuine
  · rw [same]
    rfl

theorem ofEntries_of_verified {networkId : Octets 32} {xs : List LocatedEntry}
    {stored : LocatedEntry → LocatedEntry} {verified : LocatedEntry → Verified}
    (each : ∀ x ∈ xs, (stored x).verify networkId = .ok (verified x)) :
    Verification.ofEntries networkId (xs.map stored) = ⟨xs.map verified, none⟩ := by
  induction xs with
  | nil => rfl
  | cons x xs ih =>
    rw [List.forall_mem_cons] at each
    rw [List.map_cons, Verification.ofEntries, each.1, ih each.2]
    rfl

/-- A transaction whose entries were completed with genuine signatures verifies. -/
theorem verify_of_signatures (genuine : ∀ x ∈ signed.transaction.addressEntries,
      Ed25519.verifyStrict r.signer.publicKey (r.digest x).toBytes (signatureOf x) = true) :
    (Envelope.v1 (signed.withCredentials fun x => r.completed x (signatureOf x))).verify r.network.id =
      .ok (signed.transaction.addressEntries.map fun x => ⟨x.position, r.signer.publicKey, r.digest x⟩) := by
  have updated := address_entries_updated (fun x => r.completed x (signatureOf x)) signed.transaction
  have walked := Cursor.rest_ofTransaction
    (signed.transaction.withCredentials fun x => r.completed x (signatureOf x))
  have all := ofEntries_of_verified fun x member => verify_completed (genuine x member)
  change (Verification.ofEntries r.network.id (Cursor.ofTransaction
    (signed.transaction.withCredentials fun x => r.completed x (signatureOf x))).rest).result = _
  rw [walked, updated, all]
  rfl

/-- Completing entries keeps the envelope within its format. -/
theorem completed_fits (fits : Envelope.codec.Fits (.v1 signed)) :
    Envelope.codec.Fits (.v1 (signed.withCredentials fun x => r.completed x (signatureOf x))) := by
  refine envelope_fits fits ?_
  intro x member
  obtain ⟨address, _, _, _⟩ := located_fits (fits_v1.mp fits).1 member
  exact ⟨address, trivial, trivial, Proof.toValue_fits _⟩

/-! ## Through the text -/

theorem ofText_eq_ok {text : Bytes} {envelope : Envelope} :
    Envelope.ofText text = .ok envelope ↔ Envelope.codec.ofText text = .ok envelope := by
  unfold Envelope.ofText
  cases Envelope.codec.ofText text with
  | error e => exact ⟨fun same => (nomatch same), fun same => nomatch same⟩
  | ok _ => exact ⟨fun same => Except.ok.inj same ▸ rfl, fun same => Except.ok.inj same ▸ rfl⟩

theorem ofText_eq_error {text : Bytes} {cause : DecodeError} :
    Envelope.ofText text = .error (.malformed cause) ↔ Envelope.codec.ofText text = .error cause := by
  unfold Envelope.ofText
  cases Envelope.codec.ofText text with
  | error e =>
    constructor
    · intro same
      cases same
      rfl
    · intro same
      cases same
      rfl
  | ok _ => exact ⟨fun same => (nomatch same), fun same => nomatch same⟩

theorem fits_of_decoded {text : Bytes} {envelope : Envelope}
    (accepted : Envelope.ofText text = .ok envelope) : Envelope.codec.Fits envelope :=
  Codec.fits_of_ofText (fun _ => Envelope.lawful) (ofText_eq_ok.mp accepted)

theorem envelope_of_input {s : Surroundings} {argument : Option Bytes} {text : Bytes}
    (given : s.input argument = .ok text) : s.envelope argument = Envelope.ofText text := by
  rw [Surroundings.envelope, given]
  rfl

theorem decoded_of_input {s : Surroundings} {argument : Option Bytes} {envelope : Envelope}
    (read : s.envelope argument = .ok envelope) : ∃ text, Envelope.ofText text = .ok envelope := by
  unfold Surroundings.envelope at read
  cases source : s.input argument with
  | error e =>
    rw [source] at read
    cases read
  | ok text =>
    rw [source] at read
    exact ⟨text, read⟩

/-- The string that shows an envelope that fits is decoded to the same envelope. -/
theorem decode_shown {envelope : Envelope} (fits : Envelope.codec.Fits envelope) :
    Envelope.ofText (Bytes.ofString (Envelope.codec.toString envelope)) = .ok envelope := by
  rw [ofText_eq_ok, Codec.bytes_of_toString]
  exact Codec.ofText_toText (fun _ => Envelope.lawful) fits

/-- What is assumed of ed25519 for a signing with a secret: the signatures that it
made of the digests are accepted under its own public key. -/
def Secret.Genuine (secret : Secret) (result : Except (EditError SigningError) (List Signed)) : Prop :=
  ∀ list, result = .ok list → ∀ x ∈ list, Ed25519.verifyStrict (Ed25519.publicKey secret.seed)
    x.digest.toBytes (Ed25519.sign secret.seed x.digest.toBytes) = true

/-- Signing an envelope that fits with a secret gives one that fits and verifies. -/
theorem sign_with_secret {r : SigningRequest Unit} {secret : Secret} (own : r.signer = .ofSecret secret)
    (fits : Envelope.codec.Fits (.v1 signed))
    (genuine : secret.Genuine ((Envelope.v1 signed).sign r ()).result) :
    ∃ list after transcript, (Envelope.v1 signed).sign r () = ⟨.ok list, after, transcript, ()⟩ ∧
      Envelope.codec.Fits after ∧
      after.verify r.network.id =
        .ok (list.map fun x => ⟨x.position, Ed25519.publicKey secret.seed, x.digest⟩) := by
  have key : Ed25519.publicKey secret.seed = r.signer.publicKey := by rw [own]; rfl
  obtain ⟨transcript, came⟩ := sign_of_secret own (bounded_of_fits (fits_v1.mp fits).1)
  rw [came] at genuine
  refine ⟨_, _, transcript, came, completed_fits fits, ?_⟩
  have each : ∀ x ∈ signed.transaction.addressEntries, Ed25519.verifyStrict r.signer.publicKey
      (r.digest x).toBytes (Ed25519.sign secret.seed (r.digest x).toBytes) = true :=
    fun x member => key ▸ genuine _ rfl (r.note x) (List.mem_map_of_mem member)
  refine (verify_of_signatures each).trans ?_
  rw [List.map_map, key]
  rfl

/-- Verifying at the end of a run finds no fault and changes nothing. -/
theorem check_agrees {o : Options} {printer : Printer} {network : Network} {signed : SignedTransaction}
    (fits : Envelope.codec.Fits (.v1 signed))
    (genuine : o.secret.Genuine
      ((Envelope.v1 signed).sign ⟨network, .ofSecret o.secret, o.expiration, printer⟩ ()).result) :
    (Options.signAndCheck { o with verify := true } printer network (.v1 signed)).result =
      (Options.signAndCheck { o with verify := false } printer network (.v1 signed)).result := by
  obtain ⟨list, after, transcript, came, _, verified⟩ := sign_with_secret rfl fits genuine
  have passed : (after.verification network.id).result =
      .ok (list.map fun x => ⟨x.position, Ed25519.publicKey o.secret.seed, x.digest⟩) := verified
  simp only [Options.signAndCheck, came, Options.check, passed, ↓reduceIte, Bool.false_eq_true]

/-- A run that verifies comes to the same as one that does not. -/
theorem run_agrees {o : Options} {s : Surroundings}
    (genuine : ∀ network envelope, o.network.resolve = .ok network → s.envelope o.input = .ok envelope →
      o.secret.Genuine
        (envelope.sign ⟨network, .ofSecret o.secret, o.expiration, ⟨o.quiet, s.terminal⟩⟩ ()).result) :
    (Options.run { o with verify := true } s).result = (Options.run { o with verify := false } s).result := by
  simp only [Options.run]
  cases resolved : o.network.resolve with
  | error e => rfl
  | ok network =>
    cases input : s.envelope o.input with
    | error e => rfl
    | ok envelope =>
      have holds := genuine network envelope resolved input
      obtain ⟨text, decoded⟩ := decoded_of_input input
      simp only
      cases envelope with
      | v0 _ => rfl
      | feeBump _ => rfl
      | v1 signed => exact check_agrees (fits_of_decoded decoded) holds

/-- What is signed verifies, through the text form. A decoded transaction that is signed
with a secret is within its format, its text is decoded to it, and verifying it for the
same network gives the signed positions and digests in their order, each with the key
of the secret. So a run that verifies gives the same envelope or the same error as one
that does not, on every input. -/
theorem signed_text_verifies :
    (∀ (text : Bytes) (signed : SignedTransaction), Envelope.ofText text = .ok (.v1 signed) →
      ∀ (network : Network) (secret : Secret) (expiration : UInt32) (printer : Printer),
        secret.Genuine
          ((Envelope.v1 signed).sign ⟨network, .ofSecret secret, expiration, printer⟩ ()).result →
        ∃ list after transcript,
          (Envelope.v1 signed).sign ⟨network, .ofSecret secret, expiration, printer⟩ () =
            ⟨.ok list, after, transcript, ()⟩ ∧
          Envelope.codec.Fits after ∧
          Envelope.ofText (Bytes.ofString (Envelope.codec.toString after)) = .ok after ∧
          after.verify network.id =
            .ok (list.map fun x => ⟨x.position, Ed25519.publicKey secret.seed, x.digest⟩)) ∧
    ∀ (o : Options) (s : Surroundings),
      (∀ network envelope, o.network.resolve = .ok network → s.envelope o.input = .ok envelope →
        o.secret.Genuine
          (envelope.sign ⟨network, .ofSecret o.secret, o.expiration, ⟨o.quiet, s.terminal⟩⟩ ()).result) →
      (Options.run { o with verify := true } s).result =
        (Options.run { o with verify := false } s).result := by
  refine ⟨?_, fun o s => run_agrees⟩
  intro text signed decoded network secret expiration printer genuine
  obtain ⟨list, after, transcript, came, fits, verified⟩ :=
    sign_with_secret rfl (fits_of_decoded decoded) genuine
  exact ⟨list, after, transcript, came, fits, decode_shown fits, verified⟩

namespace Sample

/-- The secret of the request. -/
def secret : Secret := ⟨.zero 32⟩

/-- One operation fits as soon as the signatures of its entries do. -/
theorem invoking_fits {owners : List Credentials} (few : owners.length ≤ unbounded)
    (each : ∀ owner ∈ owners, owner.Fits) : Envelope.Fits (.v1 (transaction [invoking owners])) := by
  have function : HostFunction.Fits (.invoke ⟨.contract (.zero 32), [105, 110, 99], []⟩) :=
    ⟨by decide, by decide, nofun⟩
  have entries : ∀ e ∈ owners.map fun owner => AuthorizationEntry.mk owner invocation, e.Fits := by
    intro e member
    obtain ⟨owner, listed, rfl⟩ := List.mem_map.mp member
    exact ⟨each owner listed, invocation_fits⟩
  have operation : OperationsFit [invoking owners] := by
    refine ⟨(by decide : 1 ≤ 100), List.forall_mem_singleton.mpr ⟨function, ?_, entries⟩⟩
    rw [List.length_map]
    exact few
  exact ⟨⟨trivial, trivial, operation, nofun⟩, Nat.zero_le _, nofun⟩

theorem single_fits : Envelope.Fits (.v1 single) :=
  invoking_fits (by decide) (List.forall_mem_singleton.mpr (Scalar.fits_iff.mpr trivial))

/-- The text of the envelope with the single address entry. -/
def text : Bytes := Envelope.codec.toText (.v1 single)

/-- A run that reads the text from standard input. -/
def surroundings : Surroundings := ⟨fun _ => none, .ok text, fun _ => .error .missing, none⟩

/-- The options of the request. -/
def options : Options where
  quiet := true
  verbose := false
  veryVerbose := false
  verify := true
  filters := []
  secret := secret
  network := ⟨none, none⟩
  expiration := 1000
  input := none

theorem text_decoded : Envelope.ofText text = .ok (.v1 single) :=
  ofText_eq_ok.mpr (Codec.ofText_toText (fun _ => Envelope.lawful) (Envelope.fits_iff.mpr single_fits))

theorem read : surroundings.envelope options.input = .ok (.v1 single) :=
  (envelope_of_input rfl).trans text_decoded

/-- What is signed for the entry. -/
def digest : Octets 32 :=
  request.digest ⟨⟨0, 0⟩, ⟨.address (unsigned 1), invocation⟩, unsigned 1⟩

theorem single_signed :
    ((Envelope.v1 single).sign request ()).result = .ok [⟨⟨0, 0⟩, digest⟩] := by
  have own : request.signer = .ofSecret secret := rfl
  have bounded := bounded_of_fits (fits_v1.mp (Envelope.fits_iff.mpr single_fits)).1
  obtain ⟨transcript, came⟩ := sign_of_secret own bounded
  rw [came]
  rfl

theorem single_genuine : secret.Genuine ((Envelope.v1 single).sign request ()).result := by
  rw [single_signed]
  intro list same x member
  cases same
  rw [List.mem_singleton.mp member]
  decide +kernel

end Sample

theorem signed_text_verifies_single :
    Envelope.ofText Sample.text = .ok (.v1 Sample.single) ∧
      Sample.secret.Genuine ((Envelope.v1 Sample.single).sign Sample.request ()).result ∧
      (∃ after, ((Envelope.v1 Sample.single).sign Sample.request ()).envelope = after ∧
        Envelope.ofText (Bytes.ofString (Envelope.codec.toString after)) = .ok after ∧
        after.verify Sample.request.network.id =
          .ok [⟨⟨0, 0⟩, Ed25519.publicKey Sample.secret.seed, Sample.digest⟩]) ∧
      (Options.run { Sample.options with verify := true } Sample.surroundings).result =
        (Options.run { Sample.options with verify := false } Sample.surroundings).result := by
  obtain ⟨signs, runs⟩ := signed_text_verifies
  refine ⟨Sample.text_decoded, Sample.single_genuine, ?_, runs Sample.options Sample.surroundings ?_⟩
  · obtain ⟨list, after, transcript, came, _, back, verified⟩ :=
      signs _ _ Sample.text_decoded .testnet Sample.secret 1000 ⟨true, none⟩ Sample.single_genuine
    have signed : list = [⟨⟨0, 0⟩, Sample.digest⟩] :=
      Except.ok.inj ((congrArg SigningOutcome.result came).symm.trans Sample.single_signed)
    rw [signed] at verified
    exact ⟨after, congrArg SigningOutcome.envelope came, back, verified⟩
  · intro network envelope resolved input
    rw [Sample.read] at input
    obtain rfl := Except.ok.inj resolved
    obtain rfl := Except.ok.inj input
    exact Sample.single_genuine

end AuthSigner
