import AuthSigner.Proofs.SigningSemantics

/-! Failures leave no trace in the envelope. An editor is called up to its first
failure and not after it; that failure is what is reported, and whatever was written
on the way is dropped. Signing inherits this: the first refused digest decides. -/
namespace AuthSigner

variable {σ ε τ : Type}

/-- Whatever the error, and whatever the lengths of the lists, the envelope stays. -/
theorem edit_error_keeps {edit : Editor σ ε} {envelope after : Envelope} {s s' : σ} {error : EditError ε}
    (failed : (Envelope.edit edit).run.run (envelope, s) = (.error error, (after, s'))) :
    after = envelope := by
  change Envelope.edit edit (envelope, s) = _ at failed
  simp only [Envelope.edit] at failed
  split at failed
  · cases failed
    rfl
  · split at failed
    · cases failed
      rfl
    · cases failed

/-- A signing that reports an error leaves the envelope. -/
theorem sign_error_keeps {r : SigningRequest τ} {envelope : Envelope} {s : τ}
    {error : EditError SigningError} (failed : (envelope.sign r s).result = .error error) :
    (envelope.sign r s).envelope = envelope := by
  unfold Envelope.sign at failed ⊢
  rcases ran : (Envelope.edit r.editor).run.run (envelope, ⟨s, [], []⟩) with ⟨result, after, state⟩
  simp only [ran] at failed ⊢
  cases result with
  | ok count => cases failed
  | error cause => exact edit_error_keeps ran

/-- The signatures of many digests fail exactly where the signer refuses one after it
has signed all before. -/
theorem Signer.signAll_map_eq_error {α : Type} {signer : Signer τ} {digest : α → Octets 32} {xs : List α}
    {s final : τ} {cause : SigningError} :
    (signer.signAll (xs.map digest)).run.run s = (.error cause, final) ↔
      ∃ earlier x later signatures between, xs = earlier ++ x :: later ∧
        (signer.signAll (earlier.map digest)).run.run s = (.ok signatures, between) ∧
        (signer.signBlob (digest x).toBytes).run.run between = (.error cause, final) := by
  constructor
  · intro failed
    induction xs generalizing s with
    | nil => cases failed
    | cons x xs ih =>
      rcases signAll_cons_eq_error.mp failed with refused | ⟨signature, between, first, rest⟩
      · exact ⟨[], x, xs, [], s, rfl, rfl, refused⟩
      · obtain ⟨earlier, y, later, signatures, s', rfl, signed, refused⟩ := ih rest
        have longer := signAll_cons_eq_ok.mpr ⟨signature, between, signatures, first, signed, rfl⟩
        exact ⟨x :: earlier, y, later, signature :: signatures, s', rfl, longer, refused⟩
  · rintro ⟨earlier, x, later, signatures, between, rfl, signed, refused⟩
    induction earlier generalizing s signatures with
    | nil =>
      cases signed
      exact signAll_cons_eq_error.mpr (.inl refused)
    | cons y earlier ih =>
      obtain ⟨signature, s', others, first, rest, _⟩ := signAll_cons_eq_ok.mp signed
      exact signAll_cons_eq_error.mpr (.inr ⟨signature, s', first, ih others rest⟩)

/-- Signing a transaction's envelope fails exactly where a digest is refused, and with
that refusal. -/
theorem sign_error_iff {r : SigningRequest τ} {s : τ} {signed : SignedTransaction}
    (bounded : signed.transaction.Bounded) {error : EditError SigningError} :
    ((Envelope.v1 signed).sign r s).result = .error error ↔
      ∃ cause final, error = .editor cause ∧
        (r.signer.signAll (signed.transaction.addressEntries.map r.digest)).run.run s =
          (.error cause, final) := by
  rcases sign_cases bounded r s with ⟨_, _, _, made, came⟩ | ⟨cause, final, _, refused, came⟩
  · rw [came, made]
    exact ⟨fun failed => (nomatch failed), fun ⟨_, _, _, failed⟩ => nomatch failed⟩
  · rw [came, refused]
    constructor
    · intro failed
      cases failed
      exact ⟨cause, final, rfl, rfl⟩
    · rintro ⟨_, _, rfl, failed⟩
      cases failed
      rfl

/-- Failing is all or nothing. On the other kinds of envelopes the editor is never
called. On a transaction the calls follow the walk; a call that fails is the last one,
it alone decides the error, and the envelope is as it was, whatever was written. So it
is when entries are signed: the signing fails exactly when the signer refuses a digest
after it signed all before, it reports that refusal, and no entry is signed. -/
theorem failure_leaves_envelope (edit : Editor σ ε) (s : σ) (r : SigningRequest τ) (k : τ) :
    (∀ t, (Envelope.v0 t).editCalls edit s = [] ∧
      (Envelope.edit edit).run.run (.v0 t, s) = (.error (.unsupported .v0), (.v0 t, s))) ∧
    (∀ t, (Envelope.feeBump t).editCalls edit s = [] ∧
      (Envelope.edit edit).run.run (.feeBump t, s) = (.error (.unsupported .feeBump), (.feeBump t, s))) ∧
    (∀ signed : SignedTransaction, signed.transaction.Bounded →
      ∃ walk, (Envelope.v1 signed).locate = .ok walk ∧
        (Envelope.v1 signed).editCalls edit s = edit.calls s walk.rest ∧
        ∀ call ∈ (Envelope.v1 signed).editCalls edit s, ∀ cause, call.outcome = .error cause →
          ∃ earlier later, (Envelope.v1 signed).editCalls edit s = earlier ++ [call] ∧
            (∀ before ∈ earlier, before.Succeeded) ∧
            walk.rest = earlier.map (·.given) ++ call.given :: later ∧
            (Envelope.edit edit).run.run (.v1 signed, s) =
              (.error (.editor cause), (.v1 signed, call.state))) ∧
    (∀ (envelope : Envelope) error, (envelope.sign r k).result = .error error →
      (envelope.sign r k).envelope = envelope) ∧
    ∀ signed : SignedTransaction, signed.transaction.Bounded →
      ∃ walk, (Envelope.v1 signed).locate = .ok walk ∧
        ∀ error, ((Envelope.v1 signed).sign r k).result = .error error ↔
          ∃ earlier x later signatures between cause final, walk.rest = earlier ++ x :: later ∧
            (r.signer.signAll (earlier.map r.digest)).run.run k = (.ok signatures, between) ∧
            (r.signer.signBlob (r.digest x).toBytes).run.run between = (.error cause, final) ∧
            error = .editor cause := by
  refine ⟨fun t => ⟨rfl, rfl⟩, fun t => ⟨rfl, rfl⟩, ?_, fun _ _ => sign_error_keeps, ?_⟩
  · intro signed bounded
    refine ⟨_, locate_v1 signed, ?_⟩
    rw [Cursor.rest_ofTransaction, edit_calls_v1 edit s bounded]
    refine ⟨rfl, ?_⟩
    intro call member cause failed
    obtain ⟨earlier, later, shape, succeeded, located, ended⟩ := Editor.failed_call_last member failed
    exact ⟨earlier, later, shape, succeeded, located, edit_run_of_failure bounded ended⟩
  · intro signed bounded
    refine ⟨_, locate_v1 signed, ?_⟩
    intro error
    rw [Cursor.rest_ofTransaction, sign_error_iff bounded]
    constructor
    · rintro ⟨cause, final, rfl, failed⟩
      obtain ⟨earlier, x, later, signatures, between, located, made, refused⟩ :=
        Signer.signAll_map_eq_error.mp failed
      exact ⟨earlier, x, later, signatures, between, cause, final, located, made, refused, rfl⟩
    · rintro ⟨earlier, x, later, signatures, between, cause, final, located, made, refused, rfl⟩
      have failed := Signer.signAll_map_eq_error.mpr
        ⟨earlier, x, later, signatures, between, located, made, refused⟩
      exact ⟨cause, final, rfl, failed⟩

/-- An editor that counts its calls, writes in each of them, and fails in the second. -/
def Sample.faltering : Editor Nat Unit := fun _ _ (c, n) =>
  (if n = 1 then .error () else .ok (), ({ c with nonce := 0 }, n + 1))

/-- A request whose signer fails at the second entry. -/
def Sample.faltered : SigningRequest (Nat × Unit) where
  network := .testnet
  signer := .failingAt 1 (.ofSecret ⟨.zero 32⟩)
  expiration := 1000
  printer := ⟨true, none⟩

theorem failure_leaves_mixed :
    Sample.mixed.transaction.Bounded ∧
      (Envelope.edit Sample.faltering).run.run (.v1 Sample.mixed, 0) =
        (.error (.editor ()), (.v1 Sample.mixed, 2)) ∧
      ((Envelope.v1 Sample.mixed).sign Sample.faltered (0, ())).result = .error (.editor .refused) ∧
      ((Envelope.v1 Sample.mixed).sign Sample.faltered (0, ())).envelope = .v1 Sample.mixed := by
  obtain ⟨_, _, edits, keeps, signs⟩ := failure_leaves_envelope Sample.faltering 0 Sample.faltered (0, ())
  obtain ⟨_, _, _, last⟩ := edits Sample.mixed Sample.mixed_bounded
  obtain ⟨walk, found, fails⟩ := signs Sample.mixed Sample.mixed_bounded
  cases found
  rw [Cursor.rest_ofTransaction] at fails
  have refused : ((Envelope.v1 Sample.mixed).sign Sample.faltered (0, ())).result =
      .error (.editor .refused) :=
    (fails _).mpr ⟨[_], _, [], _, (1, ()), .refused, (2, ()), rfl, rfl, rfl, rfl⟩
  refine ⟨Sample.mixed_bounded, ?_, refused, keeps _ _ refused⟩
  obtain ⟨_, _, _, _, _, ran⟩ :=
    last ⟨⟨⟨2, 0⟩, ⟨.address (Sample.unsigned 2), Sample.invocation⟩, Sample.unsigned 2⟩, .error (),
      { Sample.unsigned 2 with nonce := 0 }, 2⟩ (.tail _ (.head _)) () rfl
  exact ran

end AuthSigner
