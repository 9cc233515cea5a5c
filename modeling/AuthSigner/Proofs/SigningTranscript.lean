import AuthSigner.Proofs.EditAgreement
import AuthSigner.Proofs.FailureAtomicity

/-! What the user is told while entries are signed. What a signing does is the same with any printer,
and a quiet one prints nothing. The others print a block of lines for each located entry, the first half
before the entry is signed and the second half after it, so that a signing which fails ends with half a
block. -/
namespace AuthSigner

namespace Hex

/-- Two digits to the base sixteen for each byte, the high one first. -/
def digits (bytes : Bytes) : List Char :=
  bytes.flatMap fun b => [Nat.digitChar (b.toNat / 16), Nat.digitChar (b.toNat % 16)]

theorem digit_eq_digitChar : ∀ n < 16, digit n = Nat.digitChar n := by decide

theorem encode_eq_digits (bytes : Bytes) : encode bytes = String.ofList (digits bytes) := by
  have halves (b : UInt8) : [digit (b.toNat / 16), digit (b.toNat % 16)] =
      [Nat.digitChar (b.toNat / 16), Nat.digitChar (b.toNat % 16)] := by
    have small := b.toNat_lt
    rw [digit_eq_digitChar _ (by omega), digit_eq_digitChar _ (by omega)]
  exact congrArg String.ofList (congrArg bytes.flatMap (funext halves))

end Hex

namespace Transcript

/-- The texts that were printed, in order. -/
def told (t : Transcript) : List String :=
  t.filterMap fun
    | .printed text => some text
    | .logged _ => none

/-- The records that were logged, in order. -/
def records (t : Transcript) : List LogRecord :=
  t.filterMap fun
    | .printed _ => none
    | .logged record => some record

/-- Nothing was printed. -/
def Silent (t : Transcript) : Prop := ∀ text ∈ t.told, text = ""

variable {t later : Transcript}

@[simp] theorem told_append : (t ++ later).told = t.told ++ later.told := List.filterMap_append

@[simp] theorem records_append : (t ++ later).records = t.records ++ later.records := List.filterMap_append

theorem printed_eq_join (t : Transcript) : t.printed = String.join t.told := by
  unfold printed
  induction t with
  | nil => rfl
  | cons report rest ih =>
    rw [List.map_cons, String.join_cons, ih]
    cases report with
    | printed text => exact String.join_cons.symm
    | logged record => exact String.empty_append

theorem Silent.append (before : t.Silent) (after : later.Silent) : (t ++ later).Silent := by
  intro text member
  rw [told_append] at member
  exact (List.mem_append.mp member).elim (before text) (after text)

theorem Silent.printed (silent : t.Silent) : t.printed = "" := by
  rw [printed_eq_join]
  unfold Silent at silent
  generalize t.told = texts at silent
  induction texts with
  | nil => rfl
  | cons text rest ih =>
    rw [List.forall_mem_cons] at silent
    rw [String.join_cons, silent.1, ih silent.2]
    rfl

end Transcript

variable {σ : Type}

namespace SigningRequest

/-- The same request with another printer. -/
def withPrinter (r : SigningRequest σ) (printer : Printer) : SigningRequest σ := { r with printer }

variable {r : SigningRequest σ}

/-! ## What is told of one entry -/

/-- The lines that tell of an entry before it is signed: where it stands, by its indices, what it
authorizes, and its credentials as they are. -/
def openingLines (p : Printer) (x : LocatedEntry) : List String :=
  [p.pad "✍️" ++ " " ++ ("Authorizing operation " ++ toString x.position.operation ++ " auth entry " ++
      toString x.position.entry ++ ":") ++ "\n",
    x.entry.rootInvocation.json.pretty ++ "\n", x.credentials.json.pretty ++ "\n"]

/-- The lines that tell of an entry after it is signed: the digest that was signed, and the credentials
as they are now. -/
def closingLines (p : Printer) (digest : Octets 32) (after : AddressCredentials) : List String :=
  [p.pad "ℹ️" ++ " " ++ ("Payload Hash: " ++ String.ofList (Hex.digits digest.toBytes)) ++ "\n",
    p.pad "✅" ++ " " ++ "Authorized:" ++ "\n", after.json.pretty ++ "\n"]

theorem told_report (loud : r.printer.quiet = false) (icon : Icon) (text : String) (values : List Json) :
    (r.report icon text values).told = (r.printer.pad icon.text ++ " " ++ text ++ "\n") ::
      values.map fun value => value.pretty ++ "\n" := by
  have lines : Transcript.told (values.map fun value => .printed (r.printer.line value.pretty)) =
      values.map fun value => value.pretty ++ "\n" := by
    simp only [Transcript.told, List.filterMap_map, Printer.line, Printer.emit, loud, Function.comp_def,
      Bool.false_eq_true, ↓reduceIte, List.filterMap_eq_map']
  simp only [report, Printer.messageLine, Printer.emit, loud, Bool.false_eq_true, ↓reduceIte, ← lines]
  rfl

theorem authorizing_describe (p : Position) : s!"Authorizing {p.describe}:" =
    "Authorizing operation " ++ toString p.operation ++ " auth entry " ++ toString p.entry ++ ":" := by
  have front : "Authorizing operation " = "Authorizing " ++ "operation " := by decide
  change "Authorizing " ++ ("operation " ++ toString p.operation ++ " auth entry " ++ toString p.entry) ++ ":" = _
  rw [front]
  simp only [String.append_assoc]

theorem told_announcement (loud : r.printer.quiet = false) (x : LocatedEntry) :
    (r.announcement x).told = openingLines r.printer x := by
  rw [announcement, authorizing_describe]
  exact told_report loud _ _ _

theorem told_confirmation (loud : r.printer.quiet = false) (x : LocatedEntry) (signature : Octets 64) :
    (r.confirmation x signature).told = closingLines r.printer (r.digest x) (r.completed x signature) := by
  unfold confirmation
  rw [Transcript.told_append, told_report loud, Hex.encode_eq_digits]
  simp only [Printer.messageLine, Printer.emit, loud]
  rfl

theorem told_account (loud : r.printer.quiet = false) (x : LocatedEntry) (signature : Octets 64) :
    (r.account x signature).told = openingLines r.printer x ++
      closingLines r.printer (r.digest x) (r.completed x signature) := by
  rw [account, Transcript.told_append, told_announcement loud, told_confirmation loud]

/-! ## What does not hang on the printer -/

theorem silent_report (quiet : r.printer.quiet = true) (icon : Icon) (text : String) (values : List Json) :
    (r.report icon text values).Silent := by
  simp only [report, Printer.messageLine, Printer.emit, quiet, ↓reduceIte]
  exact fun _ member => List.mem_singleton.mp member

theorem records_report (r : SigningRequest σ) (icon : Icon) (text : String) (values : List Json) :
    (r.report icon text values).records = [] := by
  unfold report
  split
  · rfl
  · exact List.filterMap_eq_nil_iff.mpr fun report member => by
      rcases List.mem_cons.mp member with rfl | shown
      · rfl
      · obtain ⟨_, _, rfl⟩ := List.mem_map.mp shown
        rfl

theorem records_account (r : SigningRequest σ) (p : Printer) (x : LocatedEntry) (signature : Octets 64) :
    ((r.withPrinter p).account x signature).records = [signedRecord x.position (r.payload x) (r.digest x)] := by
  unfold account announcement confirmation
  simp only [Transcript.records_append, records_report, List.append_nil, List.nil_append]
  rfl

theorem silent_announcement (quiet : r.printer.quiet = true) (x : LocatedEntry) :
    (r.announcement x).Silent := silent_report quiet _ _ _

theorem silent_account (quiet : r.printer.quiet = true) (x : LocatedEntry) (signature : Octets 64) :
    (r.account x signature).Silent := by
  refine (silent_announcement quiet x).append (Transcript.Silent.append ?_ (silent_report quiet _ _ _))
  simp only [Printer.messageLine, Printer.emit, quiet, ↓reduceIte]
  exact fun _ member => List.mem_singleton.mp member

/-- A signing under way with some printer, and the same with a quiet one. -/
structure Muffled (first quiet : SigningState σ) : Prop where
  signer : first.signer = quiet.signer
  signed : first.signed = quiet.signed
  records : first.transcript.records = quiet.transcript.records
  silent : quiet.transcript.Silent

/-- An entry is signed alike with any two printers of which the second is quiet. -/
theorem editors_agree (r : SigningRequest σ) (p : Printer) {q : Printer} (quiet : q.quiet = true) :
    Editor.Agree Muffled (r.withPrinter p).editor (r.withPrinter q).editor := by
  intro x first second muffled
  rcases answered : (r.signer.signBlob (r.digest x).toBytes).run.run first.signer with ⟨outcome, state⟩
  have answered' := muffled.signer ▸ answered
  cases outcome with
  | ok signature =>
    rw [call_of_signature (r := r.withPrinter p) answered, call_of_signature (r := r.withPrinter q) answered']
    refine ⟨rfl, rfl, rfl, congrArg (· ++ _) muffled.signed, ?_, ?_⟩
    · calc (first.transcript ++ _ ++ _ : Transcript).records
          = first.transcript.records ++ ((r.withPrinter p).account x signature).records := by
            rw [List.append_assoc]
            exact Transcript.records_append
        _ = second.transcript.records ++ ((r.withPrinter q).account x signature).records := by
            rw [muffled.records, records_account, records_account]
        _ = (second.transcript ++ _ ++ _ : Transcript).records := by
            rw [List.append_assoc]
            exact Transcript.records_append.symm
    · rw [List.append_assoc]
      exact muffled.silent.append (silent_account quiet x signature)
  | error cause =>
    rw [call_of_refusal (r := r.withPrinter p) answered, call_of_refusal (r := r.withPrinter q) answered']
    refine ⟨rfl, rfl, rfl, muffled.signed, ?_, muffled.silent.append (silent_announcement quiet x)⟩
    simp only [Transcript.records_append, muffled.records]
    exact congrArg (_ ++ ·) ((records_report _ _ _ _).trans (records_report _ _ _ _).symm)

end SigningRequest

variable {r : SigningRequest σ} {s s' : σ} {signed : SignedTransaction}

/-- A signing comes to the same with a quiet printer as with any other, and logs the same; and the quiet
printer prints nothing. -/
theorem sign_alike (e : Envelope) (r : SigningRequest σ) (s : σ) (p : Printer) {q : Printer}
    (quiet : q.quiet = true) :
    (e.sign (r.withPrinter p) s).result = (e.sign (r.withPrinter q) s).result ∧
      (e.sign (r.withPrinter p) s).envelope = (e.sign (r.withPrinter q) s).envelope ∧
      (e.sign (r.withPrinter p) s).signer = (e.sign (r.withPrinter q) s).signer ∧
      (e.sign (r.withPrinter p) s).transcript.records = (e.sign (r.withPrinter q) s).transcript.records ∧
      (e.sign (r.withPrinter q) s).transcript.Silent := by
  have start : SigningRequest.Muffled (⟨s, [], []⟩ : SigningState σ) ⟨s, [], []⟩ := ⟨rfl, rfl, rfl, nofun⟩
  obtain ⟨result, envelope, muffled⟩ := (SigningRequest.editors_agree r p quiet).edit e start
  unfold Envelope.sign
  rcases ran : (Envelope.edit (r.withPrinter p).editor).run.run (e, ⟨s, [], []⟩) with ⟨outcome, e', state⟩
  rcases ran' : (Envelope.edit (r.withPrinter q).editor).run.run (e, ⟨s, [], []⟩) with ⟨outcome', e'', state'⟩
  rw [ran, ran'] at result envelope muffled
  cases result
  cases envelope
  obtain ⟨signer, signed, records, silent⟩ := muffled
  dsimp only at signer signed records silent ⊢
  cases outcome with
  | ok count =>
    refine ⟨congrArg Except.ok signed, rfl, signer, ?_, silent.append nofun⟩
    simp only [Transcript.records_append, records, signed]
  | error cause => exact ⟨rfl, rfl, signer, records, silent⟩

/-! ## What is told of one entry after the other -/

/-- A digest that is refused ends the calls with half of what is told of an entry. -/
theorem SigningRequest.calls_told_of_refusal (st : SigningState σ) {earlier later : List LocatedEntry}
    {x : LocatedEntry} {signatures : List (Octets 64)} {between : σ} {cause : SigningError}
    (made : (r.signer.signAll (earlier.map r.digest)).run.run st.signer = (.ok signatures, between))
    (refused : (r.signer.signBlob (r.digest x).toBytes).run.run between = (.error cause, s')) :
    Call.ending st (r.editor.calls st (earlier ++ x :: later)) = (.error cause, ⟨s',
      st.transcript ++ (List.zipWith r.account earlier signatures).flatten ++ r.announcement x,
      st.signed ++ earlier.map r.note⟩) := by
  obtain ⟨_, ended⟩ := calls_of_signatures st made
  have called : r.editor.call (⟨between, st.transcript ++ (List.zipWith r.account earlier signatures).flatten,
    st.signed ++ earlier.map r.note⟩ : SigningState σ) x = _ := call_of_refusal refused
  rw [Editor.ending_append, ended]
  dsimp only
  rw [Editor.calls_of_failure (by rw [called]), Call.ending_of_failure (by rw [called]), called]

/-- Where a digest is refused after those before it got their signatures, the envelope stays, and the
user is told of the entries up to the one refused. -/
theorem sign_told_of_refusal {earlier later : List LocatedEntry} {x : LocatedEntry}
    {signatureOf : LocatedEntry → Octets 64} {between : σ} {cause : SigningError}
    (bounded : signed.transaction.Bounded) (located : signed.transaction.addressEntries = earlier ++ x :: later)
    (made : (r.signer.signAll (earlier.map r.digest)).run.run s = (.ok (earlier.map signatureOf), between))
    (refused : (r.signer.signBlob (r.digest x).toBytes).run.run between = (.error cause, s')) :
    (Envelope.v1 signed).sign r s = ⟨.error (.editor cause), .v1 signed,
      (earlier.flatMap fun y => r.account y (signatureOf y)) ++ r.announcement x, s'⟩ := by
  have ended : Call.ending ⟨s, [], []⟩ (r.editor.calls ⟨s, [], []⟩ (earlier ++ x :: later)) = _ :=
    SigningRequest.calls_told_of_refusal ⟨s, [], []⟩ made refused
  rw [← located] at ended
  unfold Envelope.sign
  rw [edit_run_of_failure bounded ended]
  simp only [List.nil_append, List.zipWith_map_right, List.zipWith_self, List.flatMap_def]

theorem told_flatMap {f : LocatedEntry → Transcript} {g : LocatedEntry → List String}
    (lines : ∀ x, (f x).told = g x) (xs : List LocatedEntry) :
    Transcript.told (xs.flatMap f) = xs.flatMap g := by
  unfold Transcript.told
  rw [List.filterMap_flatMap]
  exact congrArg xs.flatMap (funext lines)

/-- Diagnostics are faithful and never interfere. With a quiet printer every signing comes to the same as
with any other, leaves the same envelope and the same signer and logs the same, and nothing is printed.
With a printer that is not quiet, what is printed are the texts of the transcript in their order, and each
located entry has a block of lines, in the order of the walk: its position, its invocation and its
credentials as they were, and then the digest that was signed for it and its credentials as they are in
the envelope afterwards. The digests are those that are returned. If the
signer refuses a digest, the blocks of the entries before it are complete, its own breaks off where the
digest would stand, and nothing follows. -/
theorem diagnostics_faithful (r : SigningRequest σ) (s : σ) (p q : Printer) (loud : p.quiet = false)
    (quiet : q.quiet = true) :
    (∀ e : Envelope, (e.sign (r.withPrinter q) s).result = (e.sign (r.withPrinter p) s).result ∧
      (e.sign (r.withPrinter q) s).envelope = (e.sign (r.withPrinter p) s).envelope ∧
      (e.sign (r.withPrinter q) s).signer = (e.sign (r.withPrinter p) s).signer ∧
      (e.sign (r.withPrinter q) s).transcript.records = (e.sign (r.withPrinter p) s).transcript.records ∧
      (e.sign (r.withPrinter q) s).transcript.printed = "" ∧
      (e.sign (r.withPrinter p) s).transcript.printed = String.join (e.sign (r.withPrinter p) s).transcript.told) ∧
    (∀ t, ((Envelope.v0 t).sign (r.withPrinter p) s).transcript.told = []) ∧
    (∀ t, ((Envelope.feeBump t).sign (r.withPrinter p) s).transcript.told = []) ∧
    ∀ signed : SignedTransaction, signed.transaction.Bounded →
      ∃ (walk : Cursor) (digest : LocatedEntry → Octets 32) (signatureOf : LocatedEntry → Octets 64)
        (after : LocatedEntry → AddressCredentials),
        (Envelope.v1 signed).locate = .ok walk ∧
        (∀ x, digest x = sha256 (authorizationPreimage r.network x.credentials.nonce r.expiration
          x.entry.rootInvocation)) ∧
        (∀ x, after x = {
          address := x.credentials.address
          nonce := x.credentials.nonce
          expiration := r.expiration
          signature := (Proof.mk r.signer.publicKey (signatureOf x)).toValue }) ∧
        (∀ noted, ((Envelope.v1 signed).sign (r.withPrinter p) s).result = .ok noted →
          noted = (walk.rest.map fun x => ⟨x.position, digest x⟩) ∧
          (∃ rewalk, ((Envelope.v1 signed).sign (r.withPrinter p) s).envelope.locate = .ok rewalk ∧
            rewalk.rest = walk.rest.map fun x => x.withCredentials (after x)) ∧
          ((Envelope.v1 signed).sign (r.withPrinter p) s).transcript.told =
            walk.rest.flatMap fun x => SigningRequest.openingLines p x ++
              SigningRequest.closingLines p (digest x) (after x)) ∧
        ∀ error, ((Envelope.v1 signed).sign (r.withPrinter p) s).result = .error error →
          ∃ earlier x later between cause final, walk.rest = earlier ++ x :: later ∧
            (r.signer.signAll (earlier.map digest)).run.run s = (.ok (earlier.map signatureOf), between) ∧
            (r.signer.signBlob (digest x).toBytes).run.run between = (.error cause, final) ∧
            error = .editor cause ∧
            ((Envelope.v1 signed).sign (r.withPrinter p) s).transcript.told =
              (earlier.flatMap fun y => SigningRequest.openingLines p y ++
                SigningRequest.closingLines p (digest y) (after y)) ++ SigningRequest.openingLines p x := by
  refine ⟨?_, fun t => rfl, fun t => rfl, ?_⟩
  · intro e
    obtain ⟨result, envelope, signer, records, silent⟩ := sign_alike e r s p quiet
    exact ⟨result.symm, envelope.symm, signer.symm, records.symm, silent.printed, Transcript.printed_eq_join _⟩
  intro signed bounded
  have distinct := address_positions_distinct signed.transaction
  have block := fun signatureOf : LocatedEntry → Octets 64 => told_flatMap fun x =>
    SigningRequest.told_account (r := r.withPrinter p) loud x (signatureOf x)
  rcases answered : (r.signer.signAll (signed.transaction.addressEntries.map r.digest)).run.run s with
    ⟨outcome, s'⟩
  cases outcome with
  | ok signatures =>
    have each := (Signer.signAll_length answered).trans (List.length_map _)
    obtain ⟨signatureOf, rfl⟩ := exists_assignment distinct each fun _ => .zero 64
    have came := sign_told_of_signatures (r := r.withPrinter p) bounded answered
    refine ⟨_, r.digest, signatureOf, fun x => r.completed x (signatureOf x), locate_v1 signed, r.digest_eq,
      fun _ => rfl, ?_⟩
    rw [Cursor.rest_ofTransaction, came]
    refine ⟨?_, fun _ failed => (nomatch failed)⟩
    intro noted same
    cases same
    refine ⟨rfl, ⟨_, locate_v1 _, ?_⟩, ?_⟩
    · rw [Cursor.rest_ofTransaction]
      exact address_entries_updated _ signed.transaction
    · rw [Transcript.told_append, block signatureOf]
      exact List.append_nil _
  | error cause =>
    obtain ⟨earlier, x, later, signatures, between, located, made, refused⟩ :=
      Signer.signAll_map_eq_error.mp answered
    have each := (Signer.signAll_length made).trans (List.length_map _)
    have front : (earlier.map (·.position)).Nodup := by
      rw [located, List.map_append] at distinct
      exact (List.nodup_append.mp distinct).1
    obtain ⟨signatureOf, rfl⟩ := exists_assignment front each fun _ => .zero 64
    have came := sign_told_of_refusal (r := r.withPrinter p) bounded located made refused
    refine ⟨_, r.digest, signatureOf, fun x => r.completed x (signatureOf x), locate_v1 signed, r.digest_eq,
      fun _ => rfl, ?_⟩
    rw [Cursor.rest_ofTransaction, came]
    refine ⟨fun _ done => (nomatch done), ?_⟩
    intro error same
    cases same
    refine ⟨earlier, x, later, between, cause, s', located, made, refused, rfl, ?_⟩
    rw [Transcript.told_append, block signatureOf, SigningRequest.told_announcement loud]
    rfl

/-- A signer that refuses the second of two entries: the first has its whole block, the second half of
one, and a quiet printer prints nothing. -/
theorem diagnostics_faithful_halfway :
    (Printer.mk false none).quiet = false ∧ (Printer.mk true none).quiet = true ∧
      Sample.mixed.transaction.Bounded ∧
      ((Envelope.v1 Sample.mixed).sign (Sample.faltered.withPrinter ⟨true, none⟩) (0, ())).transcript.printed = "" ∧
      ∃ first second digest after, Sample.mixed.transaction.addressEntries = [first, second] ∧
        ((Envelope.v1 Sample.mixed).sign (Sample.faltered.withPrinter ⟨false, none⟩) (0, ())).transcript.told =
          SigningRequest.openingLines ⟨false, none⟩ first ++
            SigningRequest.closingLines ⟨false, none⟩ digest after ++
            SigningRequest.openingLines ⟨false, none⟩ second := by
  obtain ⟨alike, _, _, tells⟩ := diagnostics_faithful Sample.faltered (0, ()) ⟨false, none⟩ ⟨true, none⟩ rfl rfl
  obtain ⟨_, _, _, _, silent, _⟩ := alike (.v1 Sample.mixed)
  refine ⟨rfl, rfl, Sample.mixed_bounded, silent, ?_⟩
  obtain ⟨walk, digest, _, after, found, _, _, _, fails⟩ := tells Sample.mixed Sample.mixed_bounded
  have failed : ((Envelope.v1 Sample.mixed).sign (Sample.faltered.withPrinter ⟨false, none⟩) (0, ())).result =
      .error (.editor .refused) :=
    (sign_error_iff Sample.mixed_bounded).mpr ⟨.refused, (2, ()), rfl,
      Signer.signAll_map_eq_error.mpr ⟨[_], _, [], _, (1, ()), rfl, rfl, rfl⟩⟩
  obtain ⟨earlier, second, later, between, _, _, located, made, refused, _, told⟩ := fails _ failed
  cases found
  rw [Cursor.rest_ofTransaction] at located
  rcases earlier with _ | ⟨first, _ | ⟨another, rest⟩⟩
  · -- the first digest is not refused
    cases made
    cases refused
  · cases located
    rw [List.flatMap_singleton] at told
    exact ⟨_, _, _, _, rfl, told⟩
  · -- there are no more than two entries
    have long := congrArg List.length located
    rw [List.length_append, List.length_cons, List.length_cons, List.length_cons] at long
    change 2 = _ at long
    omega

end AuthSigner
