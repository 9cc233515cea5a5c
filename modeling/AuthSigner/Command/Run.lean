import AuthSigner.Auth.Sign
import AuthSigner.Auth.Verify
import AuthSigner.Command.Input
import AuthSigner.Command.Options

/-! A run: choose the network, read the envelope, sign it, verify it if asked to, and
write it. Nothing is written unless every stage succeeds. -/
namespace AuthSigner

/-- Why a run fails, by the stage that does. -/
inductive RunError where
  | network (cause : NetworkError)
  | input (cause : InputError)
  | signing (cause : EditError SigningError)
  | verifying (cause : VerifyError)
deriving DecidableEq

def RunError.message : RunError → String
  | .network cause => cause.message
  | .input cause => cause.message
  | .signing cause => cause.signingMessage
  | .verifying cause => cause.message

/-- The signed envelope, or why there is none, and what the user was told. -/
structure RunOutcome where
  result : Except RunError Envelope
  transcript : Transcript

/-- What a run writes: the text of the envelope in a line, or nothing. -/
def RunOutcome.output (o : RunOutcome) : String :=
  match o.result with
  | .ok envelope => Envelope.codec.toString envelope ++ "\n"
  | .error _ => ""

namespace Options

/-- What the user is told first: the key, and the network. -/
def greeting (printer : Printer) (publicKey : Octets 32) (network : Network) : Transcript :=
  [.printed (printer.messageLine .key
      s!"Public Key: {Hex.encode publicKey.toBytes} ({publicKeyText publicKey})"),
    .printed (printer.messageLine .globe s!"Network Passphrase: {network.passphrase}")]

/-- The last stage: verifies a signed envelope, if asked to. -/
def check (o : Options) (printer : Printer) (network : Network) (envelope : Envelope) : RunOutcome :=
  if o.verify then
    let verification := envelope.verification network.id
    match verification.result with
    | .error e => ⟨.error (.verifying e), verification.transcript⟩
    | .ok verified =>
      ⟨.ok envelope, verification.transcript ++
        [.printed (printer.messageLine .check s!"Verified {verified.length} signature(s)")]⟩
  else ⟨.ok envelope, []⟩

/-- The stages from signing on. -/
def signAndCheck (o : Options) (printer : Printer) (network : Network) (envelope : Envelope) :
    RunOutcome :=
  let signing := envelope.sign ⟨network, .ofSecret o.secret, o.expiration, printer⟩ ()
  match signing.result with
  | .error e => ⟨.error (.signing e), signing.transcript⟩
  | .ok signed =>
    let remark : Transcript := if signed.isEmpty then
        [.printed (printer.messageLine .warn "No authorization entries with address credentials to sign")]
      else []
    let checked := o.check printer network signing.envelope
    ⟨checked.result, signing.transcript ++ remark ++ checked.transcript⟩

/-- Runs with these options. -/
def run (o : Options) (s : Surroundings) : RunOutcome :=
  match o.network.resolve with
  | .error e => ⟨.error (.network e), []⟩
  | .ok network =>
    let printer : Printer := ⟨o.quiet, s.terminal⟩
    let told := greeting printer (Signer.ofSecret o.secret).publicKey network
    match s.envelope o.input with
    | .error e => ⟨.error (.input e), told⟩
    | .ok envelope =>
      let rest := o.signAndCheck printer network envelope
      ⟨rest.result, told ++ rest.transcript⟩

end Options
end AuthSigner
