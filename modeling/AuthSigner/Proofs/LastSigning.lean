import AuthSigner.Proofs.FailureAtomicity
import AuthSigner.Proofs.RunStages
import AuthSigner.Proofs.SigningSplice

/-! What a history of signings leaves. A signing reads the addresses, nonces and invocations of
the entries, and writes all else of their credentials anew. So an envelope that was signed before
is signed as if it were not, and a signing that fails leaves no trace. Of a whole history only
the last success is seen, also where the envelope goes through its text in between. -/
namespace AuthSigner
open Xdr

variable {new new' : LocatedEntry → AddressCredentials}

/-! ## Credentials that are replaced twice -/

theorem entry_updated_twice (p : Position) (e : AuthorizationEntry) :
    (e.withCredentials new p).withCredentials new' p =
      e.withCredentials (fun x => new' (x.withCredentials (new x))) p := by
  cases owner : e.credentials with
  | sourceAccount => simp only [entry_of_source owner]
  | address c =>
    rw [entry_of_address owner, entry_of_address owner]
    rfl

theorem operation_updated_twice (index : Nat) (o : Operation) :
    (o.withCredentials new index).withCredentials new' index =
      o.withCredentials (fun x => new' (x.withCredentials (new x))) index := by
  cases o with
  | mk sourceAccount body =>
    cases body with
    | invokeHostFunction invoke =>
      simp only [Operation.withCredentials, List.mapIdx_mapIdx, Function.comp_def, entry_updated_twice]
    | _ => rfl

/-- Of two updates the second is seen, made for the entries as the first left them. -/
theorem updated_twice (signed : SignedTransaction) :
    (signed.withCredentials new).withCredentials new' =
      signed.withCredentials fun x => new' (x.withCredentials (new x)) := by
  simp only [SignedTransaction.withCredentials, Transaction.withCredentials, List.mapIdx_mapIdx,
    Function.comp_def, operation_updated_twice]

/-- An update keeps the lengths of all lists that editing puts back. -/
theorem bounded_of_update {t : Transaction} (bounded : t.Bounded) : (t.withCredentials new).Bounded := by
  obtain ⟨operations, entries⟩ := bounded
  refine ⟨by simpa only [Transaction.withCredentials, List.length_mapIdx] using operations, ?_⟩
  intro o member
  obtain ⟨index, inside, rfl⟩ := List.mem_mapIdx.mp member
  rw [auth_withCredentials, List.length_mapIdx]
  exact entries _ (List.getElem_mem inside)

/-! ## Signing again -/

section

variable {σ : Type} {r : SigningRequest σ} {x : LocatedEntry} {signed : SignedTransaction}

/-- What is signed for an entry does not depend on the expiration and signature it has. -/
theorem digest_of_update (keeping : Keeping new) : r.digest (x.withCredentials (new x)) = r.digest x := by
  have nonce : (x.withCredentials (new x)).credentials.nonce = x.credentials.nonce := (keeping x).2
  rw [r.digest_eq, r.digest_eq, nonce]
  rfl

/-- Nor do the credentials that an entry gets with its signature. -/
theorem completed_of_update (keeping : Keeping new) (signature : Octets 64) :
    r.completed (x.withCredentials (new x)) signature = r.completed x signature := by
  obtain ⟨address, nonce⟩ := keeping x
  simp only [SigningRequest.completed, LocatedEntry.withCredentials, AddressCredentials.withProof, address,
    nonce]

/-- An envelope whose entries have other expirations and signatures is signed with the same result,
and to the same envelope. The printer is of no account. -/
theorem sign_of_update (keeping : Keeping new) (bounded : signed.transaction.Bounded)
    (r : SigningRequest σ) (s : σ) (printer : Printer) :
    ((Envelope.v1 (signed.withCredentials new)).sign { r with printer } s).result =
        ((Envelope.v1 signed).sign r s).result ∧
      ∀ list, ((Envelope.v1 signed).sign r s).result = .ok list →
        ((Envelope.v1 (signed.withCredentials new)).sign { r with printer } s).envelope =
          ((Envelope.v1 signed).sign r s).envelope := by
  have entries : (signed.withCredentials new).transaction.addressEntries =
      signed.transaction.addressEntries.map fun x => x.withCredentials (new x) :=
    address_entries_updated new signed.transaction
  have digests : (signed.withCredentials new).transaction.addressEntries.map r.digest =
      signed.transaction.addressEntries.map r.digest := by
    rw [entries, List.map_map]
    exact List.map_congr_left fun x _ => digest_of_update keeping
  have asked : ({ r with printer }).signer.signAll
      ((signed.withCredentials new).transaction.addressEntries.map ({ r with printer }).digest) =
        r.signer.signAll (signed.transaction.addressEntries.map r.digest) :=
    congrArg r.signer.signAll digests
  have bounded' : (signed.withCredentials new).transaction.Bounded := bounded_of_update bounded
  rcases sign_cases bounded' { r with printer } s with
    ⟨signatureOf, _, _, made, again⟩ | ⟨cause, _, _, refused, again⟩
  · rw [asked, entries, List.map_map] at made
    obtain ⟨_, alone⟩ := sign_of_signatures bounded made
    rw [alone, again]
    constructor
    · rw [entries, List.map_map]
      refine congrArg Except.ok (List.map_congr_left fun x _ => ?_)
      exact congrArg (Signed.mk x.position) (digest_of_update keeping)
    · intro list _
      rw [updated_twice]
      exact congrArg (fun new => Envelope.v1 (signed.withCredentials new))
        (funext fun x => completed_of_update keeping _)
  · rw [asked] at refused
    obtain ⟨_, alone⟩ := sign_of_refusal bounded refused
    rw [alone, again]
    exact ⟨rfl, fun _ failed => nomatch failed⟩

/-- A signing that succeeds completes the entries and nothing else. -/
theorem sign_eq_completed (bounded : signed.transaction.Bounded) {s : σ} {list : List Signed}
    (succeeded : ((Envelope.v1 signed).sign r s).result = .ok list) :
    ∃ signatureOf : LocatedEntry → Octets 64, ((Envelope.v1 signed).sign r s).envelope =
      .v1 (signed.withCredentials fun x => r.completed x (signatureOf x)) := by
  rcases sign_cases bounded r s with ⟨signatureOf, _, _, _, came⟩ | ⟨_, _, _, _, came⟩
  · exact ⟨signatureOf, congrArg SigningOutcome.envelope came⟩
  · rw [came] at succeeded
    cases succeeded

end

/-! ## Histories -/

/-- A signing that is to be done: the request, and the state that its signer starts in. -/
structure SigningRun where
  {σ : Type}
  request : SigningRequest σ
  signer : σ

namespace SigningRun

/-- The entries that the run signs, or why it signs none. -/
def result (run : SigningRun) (e : Envelope) : Except (EditError SigningError) (List Signed) :=
  (e.sign run.request run.signer).result

/-- The envelope that the run leaves. -/
def envelope (run : SigningRun) (e : Envelope) : Envelope := (e.sign run.request run.signer).envelope

/-- The envelope that the run leaves, if it succeeds. -/
def yields (run : SigningRun) (e : Envelope) : Option Envelope :=
  match run.result e with
  | .ok _ => some (run.envelope e)
  | .error _ => none

end SigningRun

/-- What may be done with an envelope. -/
inductive Handling where
  | sign (run : SigningRun)
  /-- The envelope is shown as text, and that text is read. -/
  | reread

/-- The signings of a history, in order. -/
def Handling.runs : List Handling → List SigningRun
  | [] => []
  | .sign run :: rest => run :: runs rest
  | .reread :: rest => runs rest

namespace Envelope

/-- What a history makes of an envelope, and the results of its signings. -/
def handle (e : Envelope) :
    List Handling → Except InputError (Envelope × List (Except (EditError SigningError) (List Signed)))
  | [] => .ok (e, [])
  | .sign run :: rest => (handle (run.envelope e) rest).map (Prod.map id (run.result e :: ·))
  | .reread :: rest => do handle (← ofText (Bytes.ofString (codec.toString e))) rest

/-- A signing comes first and the history goes on with the envelope that it leaves. -/
theorem handle_sign {e final : Envelope} {run : SigningRun} {rest : List Handling}
    {results : List (Except (EditError SigningError) (List Signed))}
    (later : (run.envelope e).handle rest = .ok (final, results)) :
    e.handle (.sign run :: rest) = .ok (final, run.result e :: results) := by
  rw [handle, later]
  rfl

theorem handle_reread {e : Envelope} (fits : codec.Fits e) (rest : List Handling) :
    e.handle (.reread :: rest) = e.handle rest := by
  rw [handle, decode_shown fits]
  rfl

/-- What the last of these runs that succeeds on the envelope makes of it alone; or the envelope, if
none does. -/
def lastSigned (e : Envelope) (runs : List SigningRun) : Envelope :=
  (runs.filterMap (·.yields e)).getLast?.getD e

end Envelope

variable {signed : SignedTransaction}

/-- A history of an envelope that was signed before comes to what its last success makes of the
envelope before that; without a success it leaves it. -/
theorem handle_of_update (keeping : Keeping new) (fits : Envelope.codec.Fits (.v1 signed))
    (fits' : Envelope.codec.Fits (.v1 (signed.withCredentials new))) (history : List Handling) :
    (Envelope.v1 (signed.withCredentials new)).handle history =
      .ok ((((Handling.runs history).filterMap (·.yields (.v1 signed))).getLast?.getD
          (.v1 (signed.withCredentials new))),
        (Handling.runs history).map (·.result (.v1 signed))) := by
  have bounded := bounded_of_fits (fits_v1.mp fits).1
  induction history generalizing new with
  | nil => rfl
  | cons step rest ih =>
    cases step with
    | reread =>
      rw [Envelope.handle_reread fits']
      exact ih keeping fits'
    | sign run =>
      obtain ⟨same, alone⟩ := sign_of_update keeping bounded run.request run.signer run.request.printer
      have same : run.result (.v1 (signed.withCredentials new)) = run.result (.v1 signed) := same
      rw [Handling.runs, List.filterMap_cons, List.map_cons, ← same]
      cases result : run.result (.v1 signed) with
      | error cause =>
        have nothing : run.yields (.v1 signed) = none := by simp only [SigningRun.yields, result]
        have kept : run.envelope (.v1 (signed.withCredentials new)) = .v1 (signed.withCredentials new) :=
          sign_error_keeps (same.trans result)
        rw [nothing]
        refine Envelope.handle_sign ?_
        rw [kept]
        exact ih keeping fits'
      | ok list =>
        obtain ⟨signatureOf, completed⟩ := sign_eq_completed bounded result
        have made : run.envelope (.v1 signed) =
            .v1 (signed.withCredentials fun x => run.request.completed x (signatureOf x)) := completed
        have written : run.envelope (.v1 (signed.withCredentials new)) = run.envelope (.v1 signed) :=
          alone list result
        have something : run.yields (.v1 signed) = some (run.envelope (.v1 signed)) := by
          simp only [SigningRun.yields, result]
        rw [something]
        refine Envelope.handle_sign ?_
        simp only [List.getLast?_cons, Option.getD_some]
        rw [written, made]
        exact ih (completed_keeping run.request signatureOf) (completed_fits fits)

/-! ## Runs of the tool -/

variable {o : Options} {s : Surroundings}

/-- Signing what a run signed, with the same options, gives the same. -/
theorem signing_again {network : Network} {printer : Printer} {before after : Envelope}
    {list : List Signed} (fits : Envelope.codec.Fits before)
    (result : (o.signing printer network before).result = .ok list)
    (envelope : (o.signing printer network before).envelope = after) (printer' : Printer) :
    Envelope.codec.Fits after ∧ (o.signing printer' network after).result = .ok list ∧
      (o.signing printer' network after).envelope = after := by
  cases before with
  | v0 _ => cases result
  | feeBump _ => cases result
  | v1 signed =>
    have bounded := bounded_of_fits (fits_v1.mp fits).1
    obtain ⟨signatureOf, completed⟩ := sign_eq_completed bounded result
    obtain ⟨same, alone⟩ := sign_of_update (completed_keeping _ signatureOf) bounded
      ⟨network, .ofSecret o.secret, o.expiration, printer⟩ () printer'
    have left := completed.symm.trans envelope
    rw [left] at same alone
    exact ⟨left ▸ completed_fits fits, same.trans result, (alone list result).trans envelope⟩

/-- A run of the same options that is given what a run wrote, with any white space, writes it again. -/
theorem output_repeats {after : Envelope} (came : (o.run s).result = .ok after) {input : Option Bytes}
    {s' : Surroundings} {text : Bytes} (fed : s'.input input = .ok text)
    (same : text.solid = (Bytes.ofString (o.run s).output).solid) :
    (Options.run { o with input } s').output = (o.run s).output := by
  obtain ⟨network, before, resolved, given, passed⟩ := run_eq_ok.mp came
  obtain ⟨⟨list, result⟩, envelope, verifies⟩ := signAndCheck_eq_ok.mp passed
  obtain ⟨_, decoded⟩ := decoded_of_input given
  obtain ⟨fits, result', envelope'⟩ :=
    signing_again (fits_of_decoded decoded) result envelope ⟨o.quiet, s'.terminal⟩
  have given' : s'.envelope input = .ok after := by
    rw [output_eq came] at same
    exact (envelope_of_input fed).trans (ofText_of_line fits same)
  have again : (Options.run { o with input } s').result = .ok after :=
    run_eq_ok.mpr ⟨network, after, resolved, given',
      signAndCheck_eq_ok.mpr ⟨⟨list, result'⟩, envelope', verifies⟩⟩
  rw [output_eq again, output_eq came]

/-- The last successful signing wins. Whatever is done with a transaction's envelope, each run signing it
with its own network, signer and expiration, or failing wherever its signer fails, and the envelope
being shown and read again in between: the history ends with what its last successful run makes of the
envelope alone, or with the envelope if there is none, and each run has the result that it has on
the envelope alone. So where a run of the tool gives an envelope, a run with the same options that
is given the text that was written, with any white space, writes that text again. -/
theorem last_signing_wins :
    (∀ signed : SignedTransaction, (Envelope.v1 signed).Fits → ∀ history : List Handling,
      (Envelope.v1 signed).handle history =
        .ok ((Envelope.v1 signed).lastSigned (Handling.runs history),
          (Handling.runs history).map (·.result (.v1 signed)))) ∧
    ∀ (o : Options) (s : Surroundings) (after : Envelope), (o.run s).result = .ok after →
      ∀ (input : Option Bytes) (s' : Surroundings) (text : Bytes), s'.input input = .ok text →
        text.solid = (Bytes.ofString (o.run s).output).solid →
        (Options.run { o with input } s').output = (o.run s).output := by
  constructor
  · intro signed fits history
    have fits := Envelope.fits_iff.mpr fits
    have itself := envelope_unchanged signed
    have fits' : Envelope.codec.Fits (.v1 (signed.withCredentials (·.credentials))) := itself.symm ▸ fits
    have handled := handle_of_update keeping_own fits fits' history
    rw [itself] at handled
    exact handled
  · intro o s after came input s' text fed same
    exact output_repeats came fed same

namespace Sample

/-- A run for another network and until another ledger. -/
def earlierRun : SigningRun := ⟨{ request with network := .futurenet, expiration := 77 }, ()⟩

def lastRun : SigningRun := ⟨request, ()⟩

/-- A run whose signer fails at once. -/
def failedRun : SigningRun := ⟨faltered, (1, ())⟩

/-- Two runs that succeed and one that does not, each followed by a reading. -/
def history : List Handling :=
  [.sign earlierRun, .reread, .sign lastRun, .reread, .sign failedRun, .reread]

theorem earlier_result : ∃ list, earlierRun.result (.v1 single) = .ok list := by
  have bounded := bounded_of_fits (fits_v1.mp (Envelope.fits_iff.mpr single_fits)).1
  have own : earlierRun.request.signer = .ofSecret secret := rfl
  obtain ⟨transcript, came⟩ := sign_of_secret own bounded
  exact ⟨_, congrArg SigningOutcome.result came⟩

theorem last_result : lastRun.result (.v1 single) = .ok [⟨⟨0, 0⟩, digest⟩] := single_signed

theorem failed_result : failedRun.result (.v1 single) = .error (.editor .refused) := by
  have bounded := bounded_of_fits (fits_v1.mp (Envelope.fits_iff.mpr single_fits)).1
  exact (sign_error_iff bounded).mpr ⟨.refused, (2, ()), rfl, rfl⟩

/-- The options of a run that only signs. -/
def plainOptions : Options := { options with verify := false }

theorem plain_result : (plainOptions.run surroundings).result = .ok (lastRun.envelope (.v1 single)) := by
  have resolved : plainOptions.network.resolve = .ok .testnet := rfl
  refine run_eq_ok.mpr ⟨.testnet, .v1 single, resolved, read, signAndCheck_eq_ok.mpr ?_⟩
  exact ⟨⟨_, single_signed⟩, rfl, nofun⟩

/-- What is around a run that is fed what another one wrote. -/
def fedWith (outcome : RunOutcome) : Surroundings :=
  ⟨fun _ => none, .ok (Bytes.ofString outcome.output), fun _ => .error .missing, none⟩

theorem input_fed (outcome : RunOutcome) :
    (fedWith outcome).input none = .ok (Bytes.ofString outcome.output) := rfl

end Sample

theorem last_signing_wins_single :
    (Envelope.v1 Sample.single).Fits ∧
      (∃ list, (Envelope.v1 Sample.single).handle Sample.history =
        .ok (Sample.lastRun.envelope (.v1 Sample.single),
          [.ok list, .ok [⟨⟨0, 0⟩, Sample.digest⟩], .error (.editor .refused)])) ∧
      (Sample.plainOptions.run Sample.surroundings).result =
        .ok (Sample.lastRun.envelope (.v1 Sample.single)) ∧
      (Sample.plainOptions.run (Sample.fedWith (Sample.plainOptions.run Sample.surroundings))).output =
        (Sample.plainOptions.run Sample.surroundings).output := by
  obtain ⟨histories, runs⟩ := last_signing_wins
  obtain ⟨list, earlier⟩ := Sample.earlier_result
  refine ⟨Sample.single_fits, ⟨list, ?_⟩, Sample.plain_result, ?_⟩
  · rw [histories Sample.single Sample.single_fits]
    simp only [Sample.history, Handling.runs, Envelope.lastSigned, SigningRun.yields, List.filterMap_cons,
      List.filterMap_nil, List.map_cons, List.map_nil, earlier, Sample.last_result, Sample.failed_result]
    rfl
  · exact runs Sample.plainOptions Sample.surroundings _ Sample.plain_result none _ _ (Sample.input_fed _) rfl

end AuthSigner
