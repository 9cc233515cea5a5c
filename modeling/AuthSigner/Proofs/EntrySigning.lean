import AuthSigner.Auth.Sign
import AuthSigner.Proofs.EditSemantics

/-! How one entry is signed, and how one after the other are. An entry's call of
the editor comes to what its one call of the signer comes to: with a signature it
completes the credentials and notes the digest, and without one it leaves both as
they are. A run is told by the signatures that the digests get in a row. -/
namespace AuthSigner

variable {σ : Type}

/-- The bytes that are hashed for the signature of an address: the kind of the
preimage, the digest of the network's passphrase, the nonce and the expiration,
and the invocation. -/
def authorizationPreimage (network : Network) (nonce : Int64) (expiration : UInt32)
    (invocation : Invocation) : Bytes :=
  [0, 0, 0, 9] ++ (sha256 (Bytes.ofString network.passphrase)).toBytes ++
    bigEndian 8 nonce.toUInt64.toNat ++ bigEndian 4 expiration.toNat ++ invocation.write

theorem payload_bytes (network : Network) (nonce : Int64) (expiration : UInt32)
    (invocation : Invocation) :
    (Payload.mk network.id nonce expiration invocation).bytes =
      authorizationPreimage network nonce expiration invocation := by
  change [0, 0, 0, 9] ++ (((sha256 (Bytes.ofString network.passphrase)).toBytes ++ []) ++
    (bigEndian 8 nonce.toUInt64.toNat ++ (bigEndian 4 expiration.toNat ++ invocation.write))) = _
  simp only [authorizationPreimage, List.append_nil, List.append_assoc]

namespace SigningRequest

/-- What is signed for an entry: its nonce and its invocation as they are, with the
new expiration. -/
def payload (r : SigningRequest σ) (x : LocatedEntry) : Payload :=
  ⟨r.network.id, x.credentials.nonce, r.expiration, x.entry.rootInvocation⟩

def digest (r : SigningRequest σ) (x : LocatedEntry) : Octets 32 := (r.payload x).digest

/-- The credentials of an entry that got this signature. -/
def completed (r : SigningRequest σ) (x : LocatedEntry) (signature : Octets 64) : AddressCredentials :=
  x.credentials.withProof r.expiration ⟨r.signer.publicKey, signature⟩

/-- What the user is told before an entry is signed. -/
def announcement (r : SigningRequest σ) (x : LocatedEntry) : Transcript :=
  r.report .sign s!"Authorizing {x.position.describe}:" [x.entry.rootInvocation.json, x.credentials.json]

/-- What the user is told of an entry that got this signature. -/
def confirmation (r : SigningRequest σ) (x : LocatedEntry) (signature : Octets 64) : Transcript :=
  [.printed (r.printer.messageLine .info s!"Payload Hash: {Hex.encode (r.digest x).toBytes}"),
    .logged (signedRecord x.position (r.payload x) (r.digest x))] ++
  r.report .check "Authorized:" [(r.completed x signature).json]

theorem digest_eq (r : SigningRequest σ) (x : LocatedEntry) : r.digest x =
    sha256 (authorizationPreimage r.network x.credentials.nonce r.expiration x.entry.rootInvocation) := by
  rw [← payload_bytes]
  rfl

variable {r : SigningRequest σ} {st : SigningState σ} {x : LocatedEntry} {state : σ}

/-! ## One entry -/

theorem tell_run (reports : Transcript) (c : AddressCredentials) (st : SigningState σ) :
    (tell reports).run.run (c, st) =
      (.ok (), (c, { st with transcript := st.transcript ++ reports })) := rfl

theorem signPayload_run {outcome : Except SigningError (Octets 64)} (signer : Signer σ) (p : Payload)
    (c : AddressCredentials) (transcript : Transcript) (signed : List Signed) {s : σ}
    (answered : (signer.signBlob p.digest.toBytes).run.run s = (outcome, state)) :
    (signPayload signer p.bytes).run.run (c, ⟨s, transcript, signed⟩) =
      (outcome.map fun signature => (p.digest, signature), (c, ⟨state, transcript, signed⟩)) := by
  have asked : (signer.signPayload p.bytes).run.run s =
      (outcome.map fun signature => (p.digest, signature), state) := by
    cases outcome with
    | ok signature => exact Fallible.run_bind_ok answered _
    | error cause => exact Fallible.run_bind_error answered _
  change (((signer.signPayload p.bytes).run.run s).1, c,
    SigningState.mk ((signer.signPayload p.bytes).run.run s).2 transcript signed) = _
  rw [asked]

/-- Up to the signature, a call tells of the entry and touches nothing else. -/
private theorem editor_run_to_signature (r : SigningRequest σ) (st : SigningState σ) (x : LocatedEntry)
    (state : σ) :
    ∃ next, (r.editor x.position x.entry.rootInvocation).run.run (x.credentials, st) =
      (signPayload r.signer (r.payload x).bytes >>= next).run.run
        (x.credentials, { st with transcript := st.transcript ++ r.announcement x }) ∧
      ∀ signature transcript, (next (r.digest x, signature)).run.run
          (x.credentials, ⟨state, transcript, st.signed⟩) =
        (.ok (), (r.completed x signature,
          ⟨state, transcript ++ r.confirmation x signature, st.signed ++ [⟨x.position, r.digest x⟩]⟩)) := by
  unfold editor
  refine ⟨_, (Fallible.run_get_bind _ _).trans (Fallible.run_bind_ok (tell_run _ _ _) _), ?_⟩
  intro signature transcript
  unfold confirmation
  rw [← List.append_assoc]
  rfl

/-- With a signature, the call completes the credentials. -/
theorem call_of_signature {signature : Octets 64}
    (signed : (r.signer.signBlob (r.digest x).toBytes).run.run st.signer = (.ok signature, state)) :
    r.editor.call st x = ⟨x, .ok (), r.completed x signature,
      ⟨state, st.transcript ++ r.announcement x ++ r.confirmation x signature,
        st.signed ++ [⟨x.position, r.digest x⟩]⟩⟩ := by
  obtain ⟨next, told, completed⟩ := editor_run_to_signature r st x state
  have asked := signPayload_run r.signer (r.payload x) x.credentials
    (st.transcript ++ r.announcement x) st.signed signed
  unfold Editor.call
  rw [told, Fallible.run_bind_ok asked]
  exact congrArg (fun ran => Call.mk x ran.1 ran.2.1 ran.2.2) (completed signature _)

/-- Without a signature, the call leaves the credentials. -/
theorem call_of_refusal {cause : SigningError}
    (refused : (r.signer.signBlob (r.digest x).toBytes).run.run st.signer = (.error cause, state)) :
    r.editor.call st x = ⟨x, .error cause, x.credentials,
      ⟨state, st.transcript ++ r.announcement x, st.signed⟩⟩ := by
  obtain ⟨next, told, _⟩ := editor_run_to_signature r st x state
  have asked := signPayload_run r.signer (r.payload x) x.credentials
    (st.transcript ++ r.announcement x) st.signed refused
  unfold Editor.call
  rw [told, Fallible.run_bind_error asked]

end SigningRequest

/-! ## One entry after the other -/

/-- The signatures of digests, each made in the state that the one before left. -/
def Signer.signAll (signer : Signer σ) (digests : List (Octets 32)) :
    Fallible σ SigningError (List (Octets 64)) :=
  digests.mapM fun digest => signer.signBlob digest.toBytes

variable {s s' : σ} {digest : Octets 32} {digests : List (Octets 32)}

theorem Signer.signAll_cons_eq_ok {signer : Signer σ} {signatures : List (Octets 64)} :
    (signer.signAll (digest :: digests)).run.run s = (.ok signatures, s') ↔
      ∃ signature between later, (signer.signBlob digest.toBytes).run.run s = (.ok signature, between) ∧
        (signer.signAll digests).run.run between = (.ok later, s') ∧ signatures = signature :: later := by
  unfold signAll
  rw [List.mapM_cons, Fallible.run_bind_eq_ok]
  constructor
  · rintro ⟨signature, between, first, rest⟩
    obtain ⟨later, _, second, last⟩ := Fallible.run_bind_eq_ok.mp rest
    cases last
    exact ⟨signature, between, later, first, second, rfl⟩
  · rintro ⟨signature, between, later, first, second, rfl⟩
    exact ⟨signature, between, first, Fallible.run_bind_ok second _⟩

theorem Signer.signAll_cons_eq_error {signer : Signer σ} {cause : SigningError} :
    (signer.signAll (digest :: digests)).run.run s = (.error cause, s') ↔
      (signer.signBlob digest.toBytes).run.run s = (.error cause, s') ∨
        ∃ signature between, (signer.signBlob digest.toBytes).run.run s = (.ok signature, between) ∧
          (signer.signAll digests).run.run between = (.error cause, s') := by
  unfold signAll
  rw [List.mapM_cons, Fallible.run_bind_eq_error]
  refine or_congr_right (exists_congr fun signature => exists_congr fun between =>
    and_congr_right fun _ => ?_)
  rw [Fallible.run_bind_eq_error]
  constructor
  · rintro (failed | ⟨_, _, _, last⟩)
    · exact failed
    · cases last
  · exact .inl

theorem Signer.signAll_length {signer : Signer σ} {signatures : List (Octets 64)}
    (signed : (signer.signAll digests).run.run s = (.ok signatures, s')) :
    signatures.length = digests.length := by
  induction digests generalizing s signatures with
  | nil => cases signed; rfl
  | cons digest digests ih =>
    obtain ⟨_, _, later, _, rest, rfl⟩ := signAll_cons_eq_ok.mp signed
    rw [List.length_cons, List.length_cons, ih rest]

namespace SigningRequest

/-- The record of an entry that was signed. -/
def note (r : SigningRequest σ) (x : LocatedEntry) : Signed := ⟨x.position, r.digest x⟩

/-- All that the user is told of an entry that got this signature. -/
def account (r : SigningRequest σ) (x : LocatedEntry) (signature : Octets 64) : Transcript :=
  r.announcement x ++ r.confirmation x signature

variable {xs : List LocatedEntry} {r : SigningRequest σ} {state : σ}

/-- If each digest gets its signature, each call completes its entry with it. -/
theorem calls_of_signatures (st : SigningState σ) {signatures : List (Octets 64)}
    (signed : (r.signer.signAll (xs.map r.digest)).run.run st.signer = (.ok signatures, state)) :
    (r.editor.calls st xs).map (·.left) = List.zipWith r.completed xs signatures ∧
      Call.ending st (r.editor.calls st xs) = (.ok (), ⟨state,
        st.transcript ++ (List.zipWith r.account xs signatures).flatten, st.signed ++ xs.map r.note⟩) := by
  induction xs generalizing st signatures with
  | nil =>
    cases signed
    simp [Editor.calls, Call.ending]
  | cons x xs ih =>
    obtain ⟨signature, between, later, first, rest, rfl⟩ := Signer.signAll_cons_eq_ok.mp signed
    have called := call_of_signature first
    have succeeded : (r.editor.call st x).Succeeded := by rw [Call.Succeeded, called]
    have rest' : (r.signer.signAll (xs.map r.digest)).run.run (r.editor.call st x).state.signer =
        (.ok later, state) := by rw [called]; exact rest
    obtain ⟨left, ended⟩ := ih _ rest'
    rw [Editor.calls_of_success succeeded, Call.ending_of_success succeeded, List.map_cons, left, ended,
      called]
    simp only [List.map_cons, List.zipWith_cons_cons, List.flatten_cons, account, note,
      List.append_assoc, List.cons_append, List.nil_append, and_self]

/-- If a digest is refused, the calls end there. -/
theorem calls_of_refusal (st : SigningState σ) {cause : SigningError}
    (refused : (r.signer.signAll (xs.map r.digest)).run.run st.signer = (.error cause, state)) :
    ∃ transcript signed, Call.ending st (r.editor.calls st xs) =
      (.error cause, ⟨state, transcript, signed⟩) := by
  induction xs generalizing st with
  | nil => cases refused
  | cons x xs ih =>
    rcases Signer.signAll_cons_eq_error.mp refused with failed | ⟨signature, between, first, rest⟩
    · have called := call_of_refusal failed
      have failed : (r.editor.call st x).outcome = .error cause := by rw [called]
      rw [Editor.calls_of_failure failed, Call.ending_of_failure failed, called]
      exact ⟨_, _, rfl⟩
    · have called := call_of_signature first
      have succeeded : (r.editor.call st x).Succeeded := by rw [Call.Succeeded, called]
      rw [Editor.calls_of_success succeeded, Call.ending_of_success succeeded]
      exact ih _ (by rw [called]; exact rest)

end SigningRequest
end AuthSigner
