import AuthSigner.Entries.Walks
import AuthSigner.Proofs.LastSigning

/-! What programs can do with an envelope that they hold. They can look at it and walk over its
entries, edit the credentials, sign, verify and show it, any number of times and in any order;
and nothing that they do reaches further than the credentials of the address entries. Each
call either leaves the envelope or puts new credentials in, so all that is claimed of sessions
is claimed of one update. -/
namespace AuthSigner
open Xdr

/-! ## Sessions -/

/-- What a program does with an envelope. -/
inductive LibraryCall where
  | locate
  /-- Walks over the entries, with steps on the walk and on copies of it. -/
  | walk (steps : List WalkStep)
  /-- Edits the credentials, with an editor that starts in this state. -/
  | edit {σ ε : Type} (editor : Editor σ ε) (start : σ)
  | sign (run : SigningRun)
  | verify (networkId : Octets 32)
  | output

/-- What it gets. -/
inductive LibraryAnswer where
  | located (walk : Except UnsupportedEnvelope Cursor)
  /-- No answer comes from a walk that there is not. -/
  | walked (answers : Except UnsupportedEnvelope (Option (List WalkAnswer × Walks)))
  | edited {σ ε : Type} (count : Except (EditError ε) Nat) (final : σ)
  | signed {σ : Type} (result : Except (EditError SigningError) (List Signed)) (transcript : Transcript)
    (final : σ)
  | verified (verification : Verification)
  | text (text : String)

namespace Envelope

/-- A call on an envelope: what it answers, and the envelope after it. -/
def call (e : Envelope) : LibraryCall → LibraryAnswer × Envelope
  | .locate => (.located e.locate, e)
  | .walk steps => (.walked (e.locate.map fun start => Walks.run [start] steps), e)
  | .edit editor start =>
    let (count, after, final) := (Envelope.edit editor).run.run (e, start)
    (.edited count final, after)
  | .sign run =>
    let outcome := e.sign run.request run.signer
    (.signed outcome.result outcome.transcript outcome.signer, outcome.envelope)
  | .verify networkId => (.verified (e.verification networkId), e)
  | .output => (.text (codec.toString e), e)

/-- Calls one after the other, whatever comes of each: their answers, and the envelope after the last. -/
def session (e : Envelope) : List LibraryCall → List LibraryAnswer × Envelope
  | [] => ([], e)
  | c :: later =>
    let (answer, between) := e.call c
    let (answers, last) := session between later
    (answer :: answers, last)

/-- The envelope after calls. -/
def after (e : Envelope) (calls : List LibraryCall) : Envelope := (e.session calls).2

/-- Every call in a session is made like this on the envelope as it is then. -/
def Along (like : Envelope → LibraryCall → Prop) (e : Envelope) : List LibraryCall → Prop
  | [] => True
  | c :: later => like e c ∧ Along like (e.call c).2 later

end Envelope

/-- No call but a signing changes anything. -/
def OnlySigns (e : Envelope) (c : LibraryCall) : Prop := (∃ run, c = .sign run) ∨ (e.call c).2 = e

/-- An editor leaves nothing but credentials within the bounds of the format. Of their fields only
the signature has any. -/
def WritesWithinBounds (e : Envelope) : LibraryCall → Prop
  | .edit editor start => ∀ call ∈ e.editCalls editor start, call.left.signature.Fits
  | _ => True

/-- Where the entries are that a walk has yet to come to, and what is invoked there. -/
def Cursor.places (walk : Cursor) : List (Position × Invocation) :=
  walk.rest.map fun x => (x.position, x.entry.rootInvocation)

/-- Whose these entries are: addresses and nonces. -/
def Cursor.owners (walk : Cursor) : List (Address × Int64) :=
  walk.rest.map fun x => (x.credentials.address, x.credentials.nonce)

/-- Blank credentials. -/
def AddressCredentials.blank : AddressCredentials := ⟨.contract (.zero 32), 0, 0, .scalar .void⟩

/-- The transaction with the contents of its address credentials blanked out. -/
def SignedTransaction.blanked (signed : SignedTransaction) : SignedTransaction :=
  signed.withCredentials fun _ => .blank

/-! ## Edits that succeed

A list that is longer than its place allows is found at the latest when it is put back. -/

namespace Editor

variable {σ ε : Type} {edit : Editor σ ε} {s s' : σ} {n : Nat}

theorem length_of_entries {operation entry : Nat} {es es' : List AuthorizationEntry}
    (ran : (edit.onEntries operation entry es).run.run s = (.ok (es', n), s')) : es'.length = es.length := by
  induction es generalizing entry s es' n with
  | nil =>
    cases ran
    rfl
  | cons e rest ih =>
    rw [onEntries] at ran
    cases owner : e.credentials with
    | sourceAccount =>
      rw [owner] at ran
      obtain ⟨_, _, later, ended⟩ := Fallible.run_bind_eq_ok.mp ran
      cases ended
      exact congrArg Nat.succ (ih later)
    | address c =>
      rw [owner] at ran
      obtain ⟨_, _, _, ran⟩ := Fallible.run_bind_eq_ok.mp ran
      obtain ⟨_, _, later, ended⟩ := Fallible.run_bind_eq_ok.mp ran
      cases ended
      exact congrArg Nat.succ (ih later)

theorem length_of_bounded {α : Type} {max : Nat} {xs ys : List α}
    (ran : (bounded max xs : Fallible σ (EditError ε) (List α)).run.run s = (.ok ys, s')) :
    xs.length ≤ max := by
  by_cases short : xs.length ≤ max
  · exact short
  · rw [bounded, if_neg short] at ran
    cases ran

theorem bound_of_operation {index : Nat} {o o' : Operation}
    (ran : (edit.onOperation index o).run.run s = (.ok (o', n), s')) : o.auth.length ≤ unbounded := by
  unfold onOperation at ran
  cases body : o.body with
  | invokeHostFunction invoke =>
    have own : o.auth = invoke.auth := by simp only [Operation.auth, body]
    rw [body] at ran
    obtain ⟨⟨entries, count⟩, between, edited, ran⟩ := Fallible.run_bind_eq_ok.mp ran
    obtain ⟨_, _, back, _⟩ := Fallible.run_bind_eq_ok.mp ran
    rw [own, ← length_of_entries edited]
    exact length_of_bounded back
  | _ =>
    have none : o.auth = [] := by simp only [Operation.auth, body]
    rw [none]
    exact Nat.zero_le _

theorem bounds_of_operations {index : Nat} {operations edited : List Operation}
    (ran : (edit.onOperations index operations).run.run s = (.ok (edited, n), s')) :
    edited.length = operations.length ∧ ∀ o ∈ operations, o.auth.length ≤ unbounded := by
  induction operations generalizing index s edited n with
  | nil =>
    cases ran
    exact ⟨rfl, List.forall_mem_nil _⟩
  | cons o rest ih =>
    rw [onOperations] at ran
    obtain ⟨_, _, first, ran⟩ := Fallible.run_bind_eq_ok.mp ran
    obtain ⟨_, _, later, ended⟩ := Fallible.run_bind_eq_ok.mp ran
    cases ended
    obtain ⟨length, bounds⟩ := ih later
    exact ⟨congrArg Nat.succ length, List.forall_mem_cons.mpr ⟨bound_of_operation first, bounds⟩⟩

/-- An edit succeeds only if the lists that it puts back are within the bounds of their places. -/
theorem bounded_of_edit {signed : SignedTransaction} {after : Envelope}
    (ran : (Envelope.edit edit).run.run (.v1 signed, s) = (.ok n, (after, s'))) :
    signed.transaction.Bounded := by
  change Envelope.edit edit (.v1 signed, s) = _ at ran
  simp only [Envelope.edit, Envelope.signed] at ran
  split at ran
  · cases ran
  · rename_i edited
    obtain ⟨_, _, inner, ended⟩ := Fallible.run_bind_eq_ok.mp edited
    obtain ⟨_, _, back, _⟩ := Fallible.run_bind_eq_ok.mp ended
    obtain ⟨length, bounds⟩ := bounds_of_operations inner
    exact ⟨length ▸ length_of_bounded back, bounds⟩

end Editor

/-! ## One call -/

section

variable {σ ε : Type} {signed : SignedTransaction}

/-- An edit leaves the envelope, or puts in at each entry what the editor left there in a call. -/
theorem edit_revises (editor : Editor σ ε) (start : σ) :
    ((Envelope.v1 signed).call (.edit editor start)).2 = .v1 signed ∨
      ∃ new : LocatedEntry → AddressCredentials,
        (∀ x ∈ signed.transaction.addressEntries,
          ∃ call ∈ (Envelope.v1 signed).editCalls editor start, new x = call.left) ∧
        ((Envelope.v1 signed).call (.edit editor start)).2 = .v1 (signed.withCredentials new) := by
  simp only [Envelope.call]
  rcases ran : (Envelope.edit editor).run.run (.v1 signed, start) with ⟨result, after, final⟩
  cases result with
  | error cause => exact .inl (edit_error_keeps ran)
  | ok count =>
    have bounded : signed.transaction.Bounded := Editor.bounded_of_edit ran
    obtain ⟨new, agree⟩ := Editor.exists_left editor start (address_positions_distinct signed.transaction)
    rcases ended : Call.ending start (editor.calls start signed.transaction.addressEntries) with
      ⟨outcome, state⟩
    cases outcome with
    | error cause =>
      have failed := edit_run_of_failure bounded ended
      cases ran.symm.trans failed
    | ok =>
      have updated := edit_run_of_success new bounded agree ended
      obtain ⟨_, rfl, _⟩ := Prod.mk.inj (ran.symm.trans updated)
      refine .inr ⟨new, ?_, rfl⟩
      intro x member
      rw [← Editor.given_of_success ended] at member
      obtain ⟨call, made, rfl⟩ := List.mem_map.mp member
      rw [edit_calls_v1 editor start bounded]
      exact ⟨call, made, agree call made⟩

/-- A signing leaves the envelope, or completes its entries. -/
theorem sign_revises (run : SigningRun) :
    ((Envelope.v1 signed).call (.sign run)).2 = .v1 signed ∨
      ∃ signatureOf : LocatedEntry → Octets 64, ((Envelope.v1 signed).call (.sign run)).2 =
        .v1 (signed.withCredentials fun x => run.request.completed x (signatureOf x)) := by
  simp only [Envelope.call]
  cases result : ((Envelope.v1 signed).sign run.request run.signer).result with
  | error cause => exact .inl (sign_error_keeps result)
  | ok list =>
    have bounded : signed.transaction.Bounded := by
      unfold Envelope.sign at result
      rcases ran : (Envelope.edit run.request.editor).run.run (.v1 signed, ⟨run.signer, [], []⟩) with
        ⟨edited, after, state⟩
      cases edited with
      | ok count => exact Editor.bounded_of_edit ran
      | error cause =>
        rw [ran] at result
        cases result
    exact .inr (sign_eq_completed bounded result)

/-- A call on a transaction's envelope revises the credentials of its address entries, if it does
anything at all. A signing keeps addresses and nonces; and an envelope within the bounds of the
format is one after the call, if an editor stays within them. -/
theorem call_revises (signed : SignedTransaction) (c : LibraryCall) :
    ∃ new, ((Envelope.v1 signed).call c).2 = .v1 (signed.withCredentials new) ∧
      (OnlySigns (.v1 signed) c → Keeping new) ∧
      (Envelope.codec.Fits (.v1 signed) → WritesWithinBounds (.v1 signed) c →
        Envelope.codec.Fits (.v1 (signed.withCredentials new))) := by
  by_cases left : ((Envelope.v1 signed).call c).2 = .v1 signed
  · refine ⟨(·.credentials), ?_, fun _ => keeping_own, ?_⟩
    · rw [left, envelope_unchanged]
    · intro fits _
      rwa [envelope_unchanged]
  · cases c with
    | edit editor start =>
      obtain ⟨new, written, revised⟩ := (edit_revises editor start).resolve_left left
      refine ⟨new, revised, ?_, ?_⟩
      · rintro (⟨run, is⟩ | unchanged)
        · cases is
        · exact absurd unchanged left
      · intro fits within
        apply envelope_fits fits
        intro x member
        obtain ⟨call, made, same⟩ := written x member
        rw [AddressCredentials.fits_iff, same]
        exact within call made
    | sign run =>
      obtain ⟨signatureOf, completed⟩ := (sign_revises run).resolve_left left
      exact ⟨_, completed, fun _ => completed_keeping run.request signatureOf,
        fun fits _ => completed_fits fits⟩
    | _ => exact absurd rfl left

end

/-- A call on an envelope of another kind leaves it. -/
theorem call_keeps_unsupported {e : Envelope} {kind : UnsupportedEnvelope} (other : e.signed = .error kind)
    (c : LibraryCall) : (e.call c).2 = e := by
  cases e with
  | v1 _ => cases other
  | v0 t => cases c <;> rfl
  | feeBump t => cases c <;> rfl

/-- A call leaves an envelope within the bounds of the format, if an editor stays within them. -/
theorem call_fits {e : Envelope} {c : LibraryCall} (fits : Envelope.codec.Fits e)
    (within : WritesWithinBounds e c) : Envelope.codec.Fits (e.call c).2 := by
  cases kind : e.signed with
  | error other => rwa [call_keeps_unsupported kind c]
  | ok signed =>
    obtain rfl : e = .v1 signed := by
      cases e <;> cases kind
      rfl
    obtain ⟨new, came, _, keeps⟩ := call_revises signed c
    rw [came]
    exact keeps fits within

/-! ## Whole sessions -/

variable {e : Envelope} {signed : SignedTransaction}

/-- After a session the envelope has other credentials in its address entries, if anything. If only
signings change it, these have the addresses and nonces of the old ones. -/
theorem session_revises {signing : Prop} (calls : List LibraryCall)
    (only : signing → (Envelope.v1 signed).Along OnlySigns calls) :
    ∃ new, (Envelope.v1 signed).after calls = .v1 (signed.withCredentials new) ∧
      (signing → Keeping new) := by
  induction calls generalizing signed with
  | nil =>
    refine ⟨(·.credentials), ?_, fun _ => keeping_own⟩
    rw [envelope_unchanged]
    rfl
  | cons c later ih =>
    obtain ⟨first, came, keeping, _⟩ := call_revises signed c
    have only' : signing → (Envelope.v1 (signed.withCredentials first)).Along OnlySigns later :=
      fun holds => came ▸ (only holds).2
    obtain ⟨second, ended, keeping'⟩ := ih only'
    refine ⟨fun x => second (x.withCredentials (first x)), ?_, ?_⟩
    · rw [← updated_twice, ← ended, ← came]
      rfl
    · intro holds x
      obtain ⟨address, nonce⟩ := keeping (only holds).1 x
      obtain ⟨address', nonce'⟩ := keeping' holds (x.withCredentials (first x))
      exact ⟨address'.trans address, nonce'.trans nonce⟩

/-- A session leaves an envelope of another kind. -/
theorem session_keeps_unsupported {kind : UnsupportedEnvelope} (other : e.signed = .error kind)
    (calls : List LibraryCall) : e.after calls = e := by
  induction calls with
  | nil => rfl
  | cons c later ih =>
    change (e.call c).2.after later = e
    rw [call_keeps_unsupported other c]
    exact ih

/-- A session in which editors stay within the bounds of the format does not leave them. -/
theorem session_fits (calls : List LibraryCall) (fits : Envelope.codec.Fits e)
    (within : e.Along WritesWithinBounds calls) : Envelope.codec.Fits (e.after calls) := by
  induction calls generalizing e with
  | nil => exact fits
  | cons c later ih => exact ih (call_fits fits within.1) within.2

/-- New credentials are seen in no other way than as credentials: with these blanked out the
transactions are the same. -/
theorem blanked_of_update (new : LocatedEntry → AddressCredentials) (signed : SignedTransaction) :
    (signed.withCredentials new).blanked = signed.blanked := updated_twice signed

theorem places_of_update (new : LocatedEntry → AddressCredentials) (t : Transaction) :
    (Cursor.ofTransaction (t.withCredentials new)).places = (Cursor.ofTransaction t).places := by
  simp only [Cursor.places, Cursor.rest_ofTransaction, address_entries_updated, List.map_map]
  rfl

theorem owners_of_update {new : LocatedEntry → AddressCredentials} (keeping : Keeping new)
    (t : Transaction) :
    (Cursor.ofTransaction (t.withCredentials new)).owners = (Cursor.ofTransaction t).owners := by
  simp only [Cursor.owners, Cursor.rest_ofTransaction, address_entries_updated, List.map_map]
  apply List.map_congr_left
  intro x _
  obtain ⟨address, nonce⟩ := keeping x
  exact Prod.ext address nonce

/-- What holds in every session, up to any point of it, whatever its calls are and whichever of them
fail. An envelope of another kind is never changed at all. A transaction's envelope stays one, and
stays the same up to the contents of its address credentials; the walk over it finds the same positions
with the same invocations, and, if nothing but signing changes credentials, the same addresses and
nonces. If it was within the bounds of the format, and editors leave no credentials beyond them,
it still is; then it can be written, and what is written is read as the envelope it is now. -/
theorem session_keeps_envelope (calls : List LibraryCall) :
    (∀ t, (Envelope.v0 t).after calls = .v0 t) ∧
    (∀ t, (Envelope.feeBump t).after calls = .feeBump t) ∧
    (∀ signed, ∃ now walk rewalk, (Envelope.v1 signed).after calls = .v1 now ∧
      now.blanked = signed.blanked ∧
      (Envelope.v1 signed).locate = .ok walk ∧ (Envelope.v1 now).locate = .ok rewalk ∧
      rewalk.places = walk.places ∧
      ((Envelope.v1 signed).Along OnlySigns calls → rewalk.owners = walk.owners)) ∧
    ∀ e : Envelope, e.Fits → e.Along WritesWithinBounds calls → (e.after calls).Fits ∧
      ∃ text, (e.after calls).call .output = (.text text, e.after calls) ∧
        Envelope.ofText (Bytes.ofString text) = .ok (e.after calls) := by
  refine ⟨fun t => session_keeps_unsupported rfl calls, fun t => session_keeps_unsupported rfl calls, ?_, ?_⟩
  · intro signed
    obtain ⟨new, revised, keeping⟩ := session_revises calls id
    exact ⟨signed.withCredentials new, _, _, revised, blanked_of_update new signed, locate_v1 _, locate_v1 _,
      places_of_update new _, fun only => owners_of_update (keeping only) _⟩
  · intro e fits within
    have fits' := session_fits calls (Envelope.fits_iff.mpr fits) within
    exact ⟨Envelope.fits_iff.mp fits', _, rfl, decode_shown fits'⟩

namespace Sample

/-- A session with two edits, of which the second fails, and two signings, of which the first fails. -/
def visit : List LibraryCall :=
  [.output, .edit counting 0, .edit faltering 1, .sign failedRun, .walk [⟨0, .next⟩, ⟨0, .rest⟩], .sign lastRun,
    .verify Network.testnet.id, .locate]

/-- A session in which nothing is edited. -/
def signings : List LibraryCall := [.sign earlierRun, .sign failedRun, .locate, .sign lastRun]

theorem visit_within_bounds : (Envelope.v1 single).Along WritesWithinBounds visit := by
  have void : Value.Fits (.scalar .void) := Scalar.fits_iff.mpr trivial
  refine ⟨trivial, ?_, ?_, trivial, trivial, trivial, trivial, trivial, trivial⟩
  · exact List.forall_mem_singleton.mpr void
  · exact List.forall_mem_singleton.mpr void

theorem signings_only : (Envelope.v1 single).Along OnlySigns signings :=
  ⟨.inl ⟨_, rfl⟩, .inl ⟨_, rfl⟩, .inr rfl, .inl ⟨_, rfl⟩, trivial⟩

end Sample

theorem session_keeps_single :
    Envelope.Fits (.v1 Sample.single) ∧ (Envelope.v1 Sample.single).Along WritesWithinBounds Sample.visit ∧
      (Envelope.v1 Sample.single).Along OnlySigns Sample.signings ∧
      (∃ now text, (Envelope.v1 Sample.single).after Sample.visit = .v1 now ∧
        now.blanked = Sample.single.blanked ∧
        (Envelope.v1 now).call .output = (.text text, .v1 now) ∧
        Envelope.ofText (Bytes.ofString text) = .ok (.v1 now)) ∧
      ∃ now rewalk, (Envelope.v1 Sample.single).after Sample.signings = .v1 now ∧
        (Envelope.v1 now).locate = .ok rewalk ∧
        rewalk.places = [(⟨0, 0⟩, Sample.invocation)] ∧
        rewalk.owners = [((Sample.unsigned 1).address, 1)] := by
  have fits := Sample.single_fits
  have within := Sample.visit_within_bounds
  have only := Sample.signings_only
  obtain ⟨_, _, keeps, shows⟩ := session_keeps_envelope Sample.visit
  obtain ⟨now, _, _, ended, blanked, _⟩ := keeps Sample.single
  obtain ⟨_, text, written, read⟩ := shows (.v1 Sample.single) fits within
  rw [ended] at written read
  obtain ⟨_, _, keeps', _⟩ := session_keeps_envelope Sample.signings
  obtain ⟨now', walk, rewalk, ended', _, found, found', places, owners⟩ := keeps' Sample.single
  cases found
  refine ⟨fits, within, only, ⟨now, text, ended, blanked, written, read⟩, now', rewalk, ended', found', ?_, ?_⟩
  · rw [places, Cursor.places, Cursor.rest_ofTransaction]
    rfl
  · rw [owners only, Cursor.owners, Cursor.rest_ofTransaction]
    rfl

end AuthSigner
