import AuthSigner.Command.Program
import AuthSigner.Proofs.EntryIndependence
import AuthSigner.Proofs.LastSigning
import AuthSigner.Proofs.NetworkChoice
import AuthSigner.Proofs.VerificationMeaning

/-! What a run comes to. Its stages follow each other, and the first that fails decides the error;
no later stage has a say, and nothing is written. Of what is around it a run sees the text of
the envelope only, by whichever route it comes, or why there is none. -/
namespace AuthSigner
open Xdr

/-! ## The routes of the input -/

/-- A text reaches a run by the route that its input takes. -/
inductive Surroundings.Delivers (s : Surroundings) (text : Bytes) : Option Bytes → Prop where
  /-- There is no argument. -/
  | stdin (fed : s.stdin = .ok text) : Delivers s text none
  /-- The argument names a file, whatever else it may be. -/
  | file {name : Bytes} {node : FileNode} (found : s.find name = .ok node) (read : node.content = .ok text) :
    Delivers s text (some name)
  /-- The argument names nothing, or cannot be looked up, and is the text itself. -/
  | argument {cause : SystemError} (unknown : s.find text = .error cause) : Delivers s text (some text)

/-- The route that an input takes ends with a failure of the system. -/
inductive Surroundings.Refuses (s : Surroundings) (cause : SystemError) : Option Bytes → Prop where
  | stdin (failed : s.stdin = .error cause) : Refuses s cause none
  /-- The argument names a directory, or a file that cannot be opened or not be read to its end. -/
  | file {name : Bytes} {node : FileNode} (found : s.find name = .ok node) (failed : node.content = .error cause) :
    Refuses s cause (some name)

variable {o : Options} {s s' : Surroundings} {text : Bytes} {input : Option Bytes}

theorem input_of_delivered (delivered : s.Delivers text input) : s.input input = .ok text := by
  cases delivered with
  | stdin fed => simp only [Surroundings.input, fed, Except.mapError]
  | file found read => simp only [Surroundings.input, found, read, Except.mapError]
  | argument unknown => simp only [Surroundings.input, unknown]

theorem input_of_refused {cause : SystemError} (refused : s.Refuses cause input) :
    s.input input = .error (.unread cause) := by
  cases refused with
  | stdin failed => simp only [Surroundings.input, failed, Except.mapError]
  | file found failed => simp only [Surroundings.input, found, failed, Except.mapError]

theorem delivered_or_refused (s : Surroundings) (input : Option Bytes) :
    (∃ text, s.Delivers text input) ∨ ∃ cause, s.Refuses cause input := by
  cases input with
  | none =>
    cases fed : s.stdin with
    | ok text => exact .inl ⟨text, .stdin fed⟩
    | error cause => exact .inr ⟨cause, .stdin fed⟩
  | some argument =>
    cases found : s.find argument with
    | error cause => exact .inl ⟨argument, .argument found⟩
    | ok node =>
      cases read : node.content with
      | ok text => exact .inl ⟨text, .file found read⟩
      | error cause => exact .inr ⟨cause, .file found read⟩

theorem envelope_of_delivered (delivered : s.Delivers text input) :
    s.envelope input = Envelope.ofText text :=
  envelope_of_input (input_of_delivered delivered)

theorem envelope_of_refused {cause : SystemError} (refused : s.Refuses cause input) :
    s.envelope input = .error (.unread cause) := by
  rw [Surroundings.envelope, input_of_refused refused]
  rfl

/-! ## The stages -/

/-- The transaction as these options sign it for a network. -/
def Options.endorse (o : Options) (network : Network) (signed : SignedTransaction) : SignedTransaction :=
  signed.withCredentials (endorsed network o.secret o.expiration)

/-- The network is the one that the options mean. -/
def Options.Chooses (o : Options) (network : Network) : Prop :=
  Network.Meant o.network.passphrase o.network.name (.ok network)

/-- What a run with options comes to. Each case takes for granted that the stages before were passed. -/
inductive Options.Ends (o : Options) (s : Surroundings) : Except RunError Envelope → Prop where
  | unknownNetwork {cause : NetworkError}
      (unknown : Network.Meant o.network.passphrase o.network.name (.error cause)) :
    Ends o s (.error (.network cause))
  | unread {network : Network} {cause : SystemError} (chosen : o.Chooses network)
      (refused : s.Refuses cause o.input) :
    Ends o s (.error (.input (.unread cause)))
  | undecoded {network : Network} {text : Bytes} {cause : InputError} (chosen : o.Chooses network)
      (delivered : s.Delivers text o.input) (undecoded : Envelope.ofText text = .error cause) :
    Ends o s (.error (.input cause))
  | unsupportedV0 {network : Network} {text : Bytes} {t : SignedTransactionV0}
      (chosen : o.Chooses network) (delivered : s.Delivers text o.input)
      (decoded : Envelope.ofText text = .ok (.v0 t)) :
    Ends o s (.error (.signing (.unsupported .v0)))
  | unsupportedFeeBump {network : Network} {text : Bytes} {bump : FeeBump}
      (chosen : o.Chooses network) (delivered : s.Delivers text o.input)
      (decoded : Envelope.ofText text = .ok (.feeBump bump)) :
    Ends o s (.error (.signing (.unsupported .feeBump)))
  /-- An entry has a fault after the signing, and those before it are proven. -/
  | unverified {network : Network} {text : Bytes} {signed : SignedTransaction}
      {earlier later : List LocatedEntry} {x : LocatedEntry} {fault : VerifyError}
      (chosen : o.Chooses network) (delivered : s.Delivers text o.input)
      (decoded : Envelope.ofText text = .ok (.v1 signed)) (asked : o.verify = true)
      (located : (o.endorse network signed).transaction.addressEntries = earlier ++ x :: later)
      (proven : ∀ y ∈ earlier, ∃ proof, y.Proven network.id proof) (faulty : x.Fault network.id fault) :
    Ends o s (.error (.verifying fault))
  | finished {network : Network} {text : Bytes} {signed : SignedTransaction}
      (chosen : o.Chooses network) (delivered : s.Delivers text o.input)
      (decoded : Envelope.ofText text = .ok (.v1 signed))
      (proven : o.verify = true → ∀ x ∈ (o.endorse network signed).transaction.addressEntries,
        ∃ proof, x.Proven network.id proof) :
    Ends o s (.ok (.v1 (o.endorse network signed)))

section

variable {network : Network} {envelope : Envelope} {signed : SignedTransaction} {printer : Printer}

theorem resolve_of_chosen (chosen : o.Chooses network) : o.network.resolve = .ok network :=
  Network.resolve_iff.mpr chosen

theorem result_of_unknown {cause : NetworkError}
    (unknown : Network.Meant o.network.passphrase o.network.name (.error cause)) :
    (o.run s).result = .error (.network cause) := by
  simp only [Options.run, Network.resolve_iff.mpr unknown]

theorem result_of_unread {cause : InputError} (chosen : o.Chooses network)
    (failed : s.envelope o.input = .error cause) : (o.run s).result = .error (.input cause) := by
  simp only [Options.run, resolve_of_chosen chosen, failed]

theorem result_of_read (chosen : o.Chooses network) (given : s.envelope o.input = .ok envelope) :
    (o.run s).result = (o.signAndCheck ⟨o.quiet, s.terminal⟩ network envelope).result := by
  simp only [Options.run, resolve_of_chosen chosen, given]

/-- Signing with a secret does not fail, so that the verification decides. -/
theorem signAndCheck_of_v1 (bounded : signed.transaction.Bounded) :
    (o.signAndCheck printer network (.v1 signed)).result =
      (o.check printer network (.v1 (o.endorse network signed))).result := by
  obtain ⟨transcript, came⟩ := sign_endorses bounded network o.secret o.expiration printer
  simp only [Options.signAndCheck, came]
  rfl

theorem check_of_fault {fault : VerifyError} (asked : o.verify = true)
    (failed : envelope.verify network.id = .error fault) :
    (o.check printer network envelope).result = .error (.verifying fault) := by
  have failed : (envelope.verification network.id).result = .error fault := failed
  simp only [Options.check, if_pos asked, failed]

/-- A decoded transaction is endorsed, and the rest of the run is its verification. -/
theorem result_of_decoded (chosen : o.Chooses network) (delivered : s.Delivers text o.input)
    (decoded : Envelope.ofText text = .ok (.v1 signed)) :
    (o.run s).result =
      (o.check ⟨o.quiet, s.terminal⟩ network (.v1 (o.endorse network signed))).result := by
  have given : s.envelope o.input = .ok (.v1 signed) := (envelope_of_delivered delivered).trans decoded
  have bounded : signed.transaction.Bounded := bounded_of_fits (fits_v1.mp (fits_of_decoded decoded)).1
  exact (result_of_read chosen given).trans (signAndCheck_of_v1 bounded)

end

/-- What a run should come to is what it comes to. -/
theorem result_of_ends {result : Except RunError Envelope} (ends : o.Ends s result) :
    (o.run s).result = result := by
  cases ends with
  | unknownNetwork unknown => exact result_of_unknown unknown
  | unread chosen refused => exact result_of_unread chosen (envelope_of_refused refused)
  | undecoded chosen delivered undecoded =>
    exact result_of_unread chosen ((envelope_of_delivered delivered).trans undecoded)
  | unsupportedV0 chosen delivered decoded =>
    exact result_of_read chosen ((envelope_of_delivered delivered).trans decoded)
  | unsupportedFeeBump chosen delivered decoded =>
    exact result_of_read chosen ((envelope_of_delivered delivered).trans decoded)
  | unverified chosen delivered decoded asked located proven faulty =>
    rw [result_of_decoded chosen delivered decoded]
    apply check_of_fault asked
    rw [verify_v1, located]
    exact result_of_fault proven faulty _
  | finished chosen delivered decoded proven =>
    rw [result_of_decoded chosen delivered decoded]
    refine check_eq_ok.mpr ⟨rfl, ?_⟩
    intro asked
    obtain ⟨proofOf, each⟩ := exists_proofs (proven asked)
    rw [verify_v1]
    exact ⟨_, result_of_proven each⟩

/-- A run comes to one of these ends. -/
theorem run_ends (o : Options) (s : Surroundings) : ∃ result, o.Ends s result := by
  cases resolved : o.network.resolve with
  | error cause => exact ⟨_, .unknownNetwork (Network.resolve_iff.mp resolved)⟩
  | ok network =>
    have chosen : o.Chooses network := Network.resolve_iff.mp resolved
    rcases delivered_or_refused s o.input with ⟨text, delivered⟩ | ⟨cause, refused⟩
    · cases decoded : Envelope.ofText text with
      | error cause => exact ⟨_, .undecoded chosen delivered decoded⟩
      | ok envelope =>
        cases envelope with
        | v0 t => exact ⟨_, .unsupportedV0 chosen delivered decoded⟩
        | feeBump bump => exact ⟨_, .unsupportedFeeBump chosen delivered decoded⟩
        | v1 signed =>
          rcases proven_or_first_fault network.id (o.endorse network signed).transaction.addressEntries with
            all | ⟨earlier, x, later, fault, located, proven, faulty⟩
          · exact ⟨_, .finished chosen delivered decoded fun _ => all⟩
          · by_cases asked : o.verify = true
            · exact ⟨_, .unverified chosen delivered decoded asked located proven faulty⟩
            · exact ⟨_, .finished chosen delivered decoded fun verify => absurd verify asked⟩
    · exact ⟨_, .unread chosen refused⟩

theorem run_result_iff {result : Except RunError Envelope} : (o.run s).result = result ↔ o.Ends s result := by
  constructor
  · intro came
    obtain ⟨result', ends⟩ := run_ends o s
    rwa [← came, result_of_ends ends]
  · exact result_of_ends

/-- A run comes to the same end when its text is delivered by another route. -/
theorem ends_of_delivered (delivered : s.Delivers text o.input) (delivered' : s'.Delivers text input)
    {result : Except RunError Envelope} (ends : o.Ends s result) : Options.Ends { o with input } s' result := by
  -- whatever text a case speaks of, it is the one that was delivered
  have only {other : Bytes} (also : s.Delivers other o.input) : s'.Delivers other input := by
    obtain rfl := Except.ok.inj ((input_of_delivered delivered).symm.trans (input_of_delivered also))
    exact delivered'
  cases ends with
  | unknownNetwork unknown => exact .unknownNetwork unknown
  | unread chosen refused =>
    have both := (input_of_delivered delivered).symm.trans (input_of_refused refused)
    cases both
  | undecoded chosen also undecoded => exact .undecoded chosen (only also) undecoded
  | unsupportedV0 chosen also decoded => exact .unsupportedV0 chosen (only also) decoded
  | unsupportedFeeBump chosen also decoded => exact .unsupportedFeeBump chosen (only also) decoded
  | unverified chosen also decoded asked located proven faulty =>
    exact .unverified chosen (only also) decoded asked located proven faulty
  | finished chosen also decoded proven => exact .finished chosen (only also) decoded proven

/-! ## What is written -/

/-- What a run gives is within the bounds of the format. -/
theorem fits_of_result {after : Envelope} (came : (o.run s).result = .ok after) : Envelope.codec.Fits after := by
  cases run_result_iff.mp came with
  | finished chosen delivered decoded proven =>
    apply envelope_fits (fits_of_decoded decoded)
    intro x _
    exact AddressCredentials.fits_iff.mpr (Proof.toValue_fits _)

theorem line_feed_of_code : ∀ n < 128, Char.ofNat n = '\n' → n = 10 := by decide

/-- The text of an envelope is a single line. -/
theorem line_feed_not_shown (envelope : Envelope) :
    '\n' ∉ (Envelope.codec.toString envelope).toList := by
  intro member
  rw [Codec.toString, Base64.encodeString, String.toList_ofList] at member
  obtain ⟨b, written, feed⟩ := List.mem_map.mp member
  obtain ⟨solid, ascii⟩ := Base64.encode_plain _ b written
  have code : b = 10 := UInt8.toNat_inj.mp (line_feed_of_code b.toNat ascii feed)
  rw [code] at solid
  cases solid

theorem conclude_stdout (s : Surroundings) (outcome : RunOutcome) (passes : LogRecord → Bool)
    (before : String) : (Program.conclude s outcome passes before).stdout = outcome.output := by
  unfold Program.conclude RunOutcome.output
  cases outcome.result <;> rfl

/-- A run gives a finished envelope or nothing. Its result is told by its stages in their order: the
network that is meant, the reading of the input, its decoding, the kind of the envelope, and, where
it is asked for, the verification of the entries as they were signed; the first that fails is
reported. Where none fails, the envelope is the one that was read, its entries endorsed for the
network with the secret until the ledger that the options say. Then standard output gets one line, the
text of that envelope, which is read as that envelope again; after a failure it gets nothing. Of the
input only the text matters: standard input, a file that the argument names, and the argument itself
where it names nothing lead to the same result and output, if the text is the same. -/
theorem run_prints_envelope_or_nothing (o : Options) (s : Surroundings) :
    (∀ result, (o.run s).result = result ↔ o.Ends s result) ∧
    (∀ after, (o.run s).result = .ok after →
      (o.run s).output = Envelope.codec.toString after ++ "\n" ∧
      '\n' ∉ (Envelope.codec.toString after).toList ∧
      Envelope.ofText (Bytes.ofString (o.run s).output) = .ok after) ∧
    (∀ error, (o.run s).result = .error error → (o.run s).output = "") ∧
    (∀ passes before, (Program.conclude s (o.run s) passes before).stdout = (o.run s).output) ∧
    ∀ text, s.Delivers text o.input → ∀ (input : Option Bytes) (s' : Surroundings),
      s'.Delivers text input →
      (Options.run { o with input } s').result = (o.run s).result ∧
      (Options.run { o with input } s').output = (o.run s).output := by
  refine ⟨fun result => run_result_iff, ?_, ?_, conclude_stdout s (o.run s), ?_⟩
  · intro after came
    have written : (o.run s).output = Envelope.codec.toString after ++ "\n" := output_eq came
    have fits : Envelope.codec.Fits after := fits_of_result came
    refine ⟨written, line_feed_not_shown after, ofText_of_line fits ?_⟩
    rw [written]
  · intro error failed
    simp only [RunOutcome.output, failed]
  · intro text delivered input s' delivered'
    obtain ⟨result, ends⟩ := run_ends o s
    have here : (o.run s).result = result := result_of_ends ends
    have there : (Options.run { o with input } s').result = result :=
      result_of_ends (ends_of_delivered delivered delivered' ends)
    have same := there.trans here.symm
    exact ⟨same, by simp only [RunOutcome.output, same]⟩

namespace Sample

/-- A working directory with a file, which has the text of the single entry, and a directory in it, which
is standard input too. -/
def filed : Surroundings where
  environment _ := none
  stdin := .error .isDirectory
  find := (FileTree.ofFiles [] [(Bytes.ofString "tx", Sample.text), (Bytes.ofString "dir/", [])]).find
  working := some FileTree.usualWorking

end Sample

theorem run_prints_envelope_or_nothing_single :
    Sample.surroundings.Delivers Sample.text none ∧ Sample.filed.Delivers Sample.text (some (Bytes.ofString "tx")) ∧
      Sample.surroundings.Delivers Sample.text (some Sample.text) ∧
      (∃ line, (Sample.plainOptions.run Sample.surroundings).output = line ++ "\n" ∧
        (Options.run { Sample.plainOptions with input := some (Bytes.ofString "tx") } Sample.filed).output =
          line ++ "\n" ∧
        (Options.run { Sample.plainOptions with input := some Sample.text } Sample.surroundings).output =
          line ++ "\n") ∧
      (Options.run { Sample.plainOptions with input := some (Bytes.ofString "dir") } Sample.filed).output = "" ∧
      (Sample.plainOptions.run Sample.filed).result = .error (.input (.unread .isDirectory)) ∧
      (Sample.plainOptions.run Sample.filed).output = "" := by
  have fed : Sample.surroundings.Delivers Sample.text none := .stdin rfl
  have filed : Sample.filed.Delivers Sample.text (some (Bytes.ofString "tx")) := .file rfl rfl
  have spelled : Sample.surroundings.Delivers Sample.text (some Sample.text) := .argument rfl
  have chosen : Sample.plainOptions.Chooses .testnet := .unsaid
  obtain ⟨_, prints, _, _, routes⟩ := run_prints_envelope_or_nothing Sample.plainOptions Sample.surroundings
  obtain ⟨line, _, _⟩ := prints _ Sample.plain_result
  obtain ⟨_, fromFile⟩ := routes Sample.text fed _ Sample.filed filed
  obtain ⟨_, fromArgument⟩ := routes Sample.text fed _ Sample.surroundings spelled
  obtain ⟨named, _, empty, _, _⟩ := run_prints_envelope_or_nothing
    { Sample.plainOptions with input := some (Bytes.ofString "dir") } Sample.filed
  have directory := (named _).mpr (.unread chosen (.file rfl rfl))
  obtain ⟨ends, _, fails, _, _⟩ := run_prints_envelope_or_nothing Sample.plainOptions Sample.filed
  have unread := (ends _).mpr (.unread chosen (.stdin rfl))
  exact ⟨fed, filed, spelled, ⟨_, line, fromFile.trans line, fromArgument.trans line⟩,
    empty _ directory, unread, fails _ unread⟩

end AuthSigner
