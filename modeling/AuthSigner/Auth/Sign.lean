import AuthSigner.Auth.Payload
import AuthSigner.Auth.Proof
import AuthSigner.Auth.Signer
import AuthSigner.Console.Log
import AuthSigner.Console.Printer
import AuthSigner.Entries.Edit
import AuthSigner.Ledger.Report
import AuthSigner.Network
import AuthSigner.Xdr.Text

/-! Signing every address entry of an envelope. Each entry is signed with the same
key, whatever its address and whatever signature it had, and all expire at the
same ledger. The user is told of each entry before and after it is signed. -/
namespace AuthSigner

/-- An entry that was signed, and what was signed for it. -/
structure Signed where
  position : Position
  digest : Octets 32
deriving DecidableEq

/-- What signing keeps from entry to entry: the signer's state, what the user has
been told, and the entries signed so far. -/
structure SigningState (σ : Type) where
  signer : σ
  transcript : Transcript
  signed : List Signed

/-- What all entries are signed with. -/
structure SigningRequest (σ : Type) where
  network : Network
  signer : Signer σ
  expiration : UInt32
  printer : Printer

namespace SigningRequest

variable {σ : Type}

/-- One entry's signing, as a computation on its credentials. -/
abbrev OnEntry (σ : Type) := ExceptT SigningError (StateM (AddressCredentials × SigningState σ))

/-- Tells the user something. -/
def tell (reports : Transcript) : OnEntry σ Unit :=
  modify fun (c, s) => (c, { s with transcript := s.transcript ++ reports })

/-- Has the signer sign a payload. -/
def signPayload (signer : Signer σ) (payload : Bytes) : OnEntry σ (Octets 32 × Octets 64) :=
  fun (c, s) =>
    let (result, state) := (signer.signPayload payload).run.run s.signer
    (result, (c, { s with signer := state }))

/-- The log record of a signed payload. -/
def signedRecord (p : Position) (payload : Payload) (digest : Octets 32) : LogRecord where
  level := .debug
  target := "stellar_sign_auth::auth::sign"
  message := "signed authorization payload"
  fields := [("position", p.describe), ("nonce", toString payload.nonce.toInt),
    ("signature_expiration_ledger", toString payload.expiration.toNat),
    ("digest", Hex.encode digest.toBytes)]

/-- A line with an icon, and below it values in full, unless the user wants it quiet. -/
def report (r : SigningRequest σ) (icon : Icon) (text : String) (values : List Json) : Transcript :=
  .printed (r.printer.messageLine icon text) ::
    if r.printer.quiet then [] else values.map fun value => .printed (r.printer.line value.pretty)

/-- Signs one entry: shows what is to be authorized and by whom, signs the payload
with the new expiration, and puts the proof into the credentials. -/
def editor (r : SigningRequest σ) : Editor (SigningState σ) SigningError := fun position invocation => do
  let (before, _) ← get
  tell (r.report .sign s!"Authorizing {position.describe}:" [invocation.json, before.json])
  let payload : Payload := ⟨r.network.id, before.nonce, r.expiration, invocation⟩
  let (digest, signature) ← signPayload r.signer payload.bytes
  tell [.printed (r.printer.messageLine .info s!"Payload Hash: {Hex.encode digest.toBytes}"),
    .logged (signedRecord position payload digest)]
  let after := before.withProof r.expiration ⟨r.signer.publicKey, signature⟩
  modify fun (_, s) => (after, { s with signed := s.signed ++ [⟨position, digest⟩] })
  tell (r.report .check "Authorized:" [after.json])

/-- The log record of a finished signing. -/
def finishedRecord (count : Nat) : LogRecord where
  level := .trace
  target := "stellar_sign_auth::auth::sign"
  message := "signed authorizations"
  fields := [("count", toString count)]

end SigningRequest

/-- What became of a signing: the entries signed or the reason why there are none,
the envelope, what the user was told, and the signer's state. -/
structure SigningOutcome (σ : Type) where
  result : Except (EditError SigningError) (List Signed)
  envelope : Envelope
  transcript : Transcript
  signer : σ

/-- Signs every address entry of an envelope, or, if it is of another kind or a
signature fails, leaves it as it is. -/
def Envelope.sign {σ : Type} (envelope : Envelope) (request : SigningRequest σ) (signer : σ) :
    SigningOutcome σ :=
  let (result, envelope', s) := (Envelope.edit request.editor).run.run (envelope, ⟨signer, [], []⟩)
  match result with
  | .ok _ =>
    let finished := Report.logged (SigningRequest.finishedRecord s.signed.length)
    ⟨.ok s.signed, envelope', s.transcript ++ [finished], s.signer⟩
  | .error e => ⟨.error e, envelope', s.transcript, s.signer⟩

/-- The report of a signing that failed. -/
def EditError.signingMessage : EditError SigningError → String
  | .unsupported kind => kind.message
  | .overlong => s!"failed to encode authorization: {Xdr.DecodeError.lengthExceedsMax.message}"
  | .editor e => e.message

end AuthSigner
