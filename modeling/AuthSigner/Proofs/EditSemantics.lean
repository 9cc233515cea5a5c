import AuthSigner.Proofs.EditCalls

/-! Editing an envelope is one call of the editor for each located entry and, if
none fails, an update of exactly those entries. The proof goes up the nested
lists: entries, operation, operations, transaction. At each level the run is told
by how the calls on the level's entries end. -/
namespace AuthSigner

variable {σ ε α β : Type} {edit : Editor σ ε} {new : LocatedEntry → AddressCredentials}

namespace Editor

/-- Goes on in the state that calls end in, unless they end with a failure. -/
def goOn (ended : Except ε Unit × σ) (next : σ → Except (EditError ε) α × σ) :
    Except (EditError ε) α × σ :=
  match ended with
  | (.ok (), s) => next s
  | (.error cause, s) => (.error (.editor cause), s)

/-- What a run comes to whose calls end like this: its value, or the failure. -/
def settled (done : α) (ended : Except ε Unit × σ) : Except (EditError ε) α × σ :=
  goOn ended fun s => (.ok done, s)

private theorem bind_settled {first : Fallible σ (EditError ε) α} {s : σ} {a : α}
    {ended : Except ε Unit × σ} (ran : first.run.run s = settled a ended)
    (next : α → Fallible σ (EditError ε) β) :
    (first >>= next).run.run s = goOn ended fun s' => (next a).run.run s' := by
  obtain ⟨outcome, s'⟩ := ended
  cases outcome with
  | ok => exact Fallible.run_bind_ok ran next
  | error cause => exact Fallible.run_bind_error ran next

/-- A list within the bound is put back as it is. -/
theorem bounded_run {max : Nat} {items : List α} (fits : items.length ≤ max) (s : σ) :
    (bounded max items : Fallible σ (EditError ε) (List α)).run.run s = (.ok items, s) := by
  rw [bounded, if_pos fits]
  rfl

theorem credentials_run (edit : Editor σ ε) (s : σ) (x : LocatedEntry) :
    (edit.onCredentials x.position x.entry.rootInvocation x.credentials).run.run s =
      settled (edit.call s x).left ((edit.call s x).outcome, (edit.call s x).state) := by
  change edit.onCredentials x.position x.entry.rootInvocation x.credentials s = _
  unfold onCredentials call
  rcases (edit x.position x.entry.rootInvocation).run.run (x.credentials, s) with ⟨outcome, left, state⟩
  cases outcome <;> rfl

/-- Editing the entries of an operation. -/
theorem entries_run (operation entry : Nat) (es : List AuthorizationEntry) (s : σ)
    (agree : ∀ call ∈ edit.calls s (addressEntriesFrom operation entry es), new call.given = call.left) :
    (edit.onEntries operation entry es).run.run s =
      settled (es.mapIdx fun i e => e.withCredentials new ⟨operation, entry + i⟩,
          (addressEntriesFrom operation entry es).length)
        (Call.ending s (edit.calls s (addressEntriesFrom operation entry es))) := by
  induction es generalizing entry s with
  | nil => rfl
  | cons e rest ih =>
    have shift : (rest.mapIdx fun i e => e.withCredentials new ⟨operation, entry + (i + 1)⟩) =
        rest.mapIdx fun i e => e.withCredentials new ⟨operation, entry + 1 + i⟩ := by
      simp only [Nat.add_comm, Nat.add_left_comm]
    rw [List.mapIdx_cons, shift, Nat.add_zero]
    cases owner : e.credentials with
    | sourceAccount =>
      have skipped : addressEntriesFrom operation entry (e :: rest) =
          addressEntriesFrom operation (entry + 1) rest := by
        simp only [addressEntriesFrom, owner]
      rw [skipped] at agree ⊢
      rw [onEntries, owner, entry_of_source owner]
      exact bind_settled (ih (entry + 1) s agree) _
    | address c =>
      have located : addressEntriesFrom operation entry (e :: rest) =
          ⟨⟨operation, entry⟩, e, c⟩ :: addressEntriesFrom operation (entry + 1) rest := by
        simp only [addressEntriesFrom, owner]
      rw [located] at agree ⊢
      have called := credentials_run edit s ⟨⟨operation, entry⟩, e, c⟩
      rw [onEntries, owner, entry_of_address owner]
      refine (bind_settled called _).trans ?_
      cases outcome : (edit.call s ⟨⟨operation, entry⟩, e, c⟩).outcome with
      | ok =>
        rw [calls_of_success outcome, List.forall_mem_cons] at agree
        rw [calls_of_success outcome, Call.ending_of_success outcome, ← agree.1]
        exact bind_settled (ih (entry + 1) _ agree.2) _
      | error cause =>
        rw [calls_of_failure outcome, Call.ending_of_failure outcome]
        rfl

/-- Editing an operation whose entries are within their bound. -/
theorem operation_run (index : Nat) (o : Operation) (s : σ) (bound : o.auth.length ≤ Xdr.unbounded)
    (agree : ∀ call ∈ edit.calls s (addressEntriesFrom index 0 o.auth), new call.given = call.left) :
    (edit.onOperation index o).run.run s =
      settled (o.withCredentials new index, (addressEntriesFrom index 0 o.auth).length)
        (Call.ending s (edit.calls s (addressEntriesFrom index 0 o.auth))) := by
  unfold onOperation Operation.withCredentials
  cases body : o.body with
  | invokeHostFunction invoke =>
    have own : o.auth = invoke.auth := by simp only [Operation.auth, body]
    rw [own] at bound agree ⊢
    have ran := entries_run index 0 invoke.auth s agree
    simp only [Nat.zero_add] at ran
    refine (bind_settled ran _).trans ?_
    refine congrArg (goOn _) (funext fun s' => ?_)
    exact Fallible.run_bind_ok (bounded_run (by rw [List.length_mapIdx]; exact bound) s') _
  | _ =>
    have none : o.auth = [] := by simp only [Operation.auth, body]
    rw [none]
    rfl

/-- Editing operations whose entries are within their bounds. -/
theorem operations_run (index : Nat) (operations : List Operation) (s : σ)
    (bounds : ∀ o ∈ operations, o.auth.length ≤ Xdr.unbounded)
    (agree : ∀ call ∈ edit.calls s (addressEntriesIn index operations), new call.given = call.left) :
    (edit.onOperations index operations).run.run s =
      settled (operations.mapIdx fun i o => o.withCredentials new (index + i),
          (addressEntriesIn index operations).length)
        (Call.ending s (edit.calls s (addressEntriesIn index operations))) := by
  induction operations generalizing index s with
  | nil => rfl
  | cons o later ih =>
    rw [List.forall_mem_cons] at bounds
    have shift : (later.mapIdx fun i o => o.withCredentials new (index + (i + 1))) =
        later.mapIdx fun i o => o.withCredentials new (index + 1 + i) := by
      simp only [Nat.add_comm, Nat.add_left_comm]
    rw [List.mapIdx_cons, shift, Nat.add_zero, onOperations]
    rw [addressEntriesIn_cons] at agree ⊢
    -- what the editor gets in the first operation is a part of all that it gets
    cases ended : Call.ending s (edit.calls s (addressEntriesFrom index 0 o.auth)) with
    | mk outcome between =>
      cases outcome with
      | ok =>
        rw [calls_append_of_success ended, List.forall_mem_append] at agree
        rw [ending_append, ended, List.length_append]
        have ran := operation_run index o s bounds.1 agree.1
        rw [ended] at ran
        refine (bind_settled ran _).trans ?_
        exact bind_settled (ih (index + 1) between bounds.2 agree.2) _
      | error cause =>
        rw [calls_append_of_failure ended] at agree
        have ran := operation_run index o s bounds.1 agree
        rw [ended] at ran
        rw [ending_append, ended]
        exact bind_settled ran _

/-- Editing a transaction. -/
theorem transaction_run (t : Transaction) (s : σ) (bounded : t.Bounded)
    (agree : ∀ call ∈ edit.calls s t.addressEntries, new call.given = call.left) :
    (edit.onTransaction t).run.run s =
      settled (t.withCredentials new, t.addressEntries.length)
        (Call.ending s (edit.calls s t.addressEntries)) := by
  have ran := operations_run 0 t.operations s bounded.entries agree
  simp only [Nat.zero_add] at ran
  refine (bind_settled ran _).trans ?_
  refine congrArg (goOn _) (funext fun s' => ?_)
  exact Fallible.run_bind_ok (bounded_run (by rw [List.length_mapIdx]; exact bounded.operations) s') _

end Editor

variable {s s' : σ} {signed : SignedTransaction}

/-- Editing a transaction's envelope with an editor that never fails. -/
theorem edit_run_of_success (new : LocatedEntry → AddressCredentials)
    (bounded : signed.transaction.Bounded)
    (agree : ∀ call ∈ edit.calls s signed.transaction.addressEntries, new call.given = call.left)
    (ended : Call.ending s (edit.calls s signed.transaction.addressEntries) = (.ok (), s')) :
    (Envelope.edit edit).run.run (.v1 signed, s) =
      (.ok signed.transaction.addressEntries.length, (.v1 (signed.withCredentials new), s')) := by
  have ran := Editor.transaction_run signed.transaction s bounded agree
  rw [ended] at ran
  change Envelope.edit edit (.v1 signed, s) = _
  simp only [Envelope.edit, Envelope.signed, ran, Editor.settled, Editor.goOn]
  rfl

/-- Editing a transaction's envelope with an editor that fails on the way. -/
theorem edit_run_of_failure {cause : ε} (bounded : signed.transaction.Bounded)
    (ended : Call.ending s (edit.calls s signed.transaction.addressEntries) = (.error cause, s')) :
    (Envelope.edit edit).run.run (.v1 signed, s) = (.error (.editor cause), (.v1 signed, s')) := by
  obtain ⟨new, agree⟩ := Editor.exists_left edit s (address_positions_distinct signed.transaction)
  have ran := Editor.transaction_run signed.transaction s bounded agree
  rw [ended] at ran
  change Envelope.edit edit (.v1 signed, s) = _
  simp only [Envelope.edit, Envelope.signed, ran, Editor.settled, Editor.goOn]

/-- The calls that an editor gets are those that it should get. -/
theorem edit_calls_v1 (edit : Editor σ ε) (s : σ) (bounded : signed.transaction.Bounded) :
    (Envelope.v1 signed).editCalls edit s = edit.calls s signed.transaction.addressEntries := by
  have recorded := Editor.ending_recorded edit s
    (fun _ (member : _ ∈ signed.transaction.addressEntries) => located_faithful member) []
  unfold Envelope.editCalls
  rcases ended : Call.ending s (edit.calls s signed.transaction.addressEntries) with ⟨outcome, final⟩
  rw [ended, List.nil_append] at recorded
  cases outcome with
  | ok =>
    obtain ⟨new, agree⟩ := Editor.exists_left edit.recorded (s, [])
      (address_positions_distinct signed.transaction)
    rw [edit_run_of_success new bounded agree recorded]
  | error cause => rw [edit_run_of_failure bounded recorded]

/-- Editing is a pointwise update along the walk. If no call fails, the editor got
exactly the located entries, each as it was in the input; their number is
returned; the envelope has, at each of their positions, the credentials that the
call left, and nothing else in it has changed; and a second walk finds the same
positions and invocations with these credentials. -/
theorem edit_updates_pointwise (edit : Editor σ ε) (s : σ) (signed : SignedTransaction)
    (bounded : signed.transaction.Bounded)
    (succeeded : ∀ call ∈ (Envelope.v1 signed).editCalls edit s, call.Succeeded) :
    ∃ walk, (Envelope.v1 signed).locate = .ok walk ∧
      ((Envelope.v1 signed).editCalls edit s).map (·.given) = walk.rest ∧
      ∃ (new : LocatedEntry → AddressCredentials) (final : σ),
        (∀ call ∈ (Envelope.v1 signed).editCalls edit s, new call.given = call.left) ∧
        (Envelope.edit edit).run.run (.v1 signed, s) =
          (.ok walk.rest.length, (.v1 (signed.withCredentials new), final)) ∧
        ∃ rewalk, (Envelope.v1 (signed.withCredentials new)).locate = .ok rewalk ∧
          rewalk.rest = walk.rest.map fun x => x.withCredentials (new x) := by
  rw [edit_calls_v1 edit s bounded] at succeeded ⊢
  refine ⟨_, locate_v1 signed, ?_⟩
  rw [Cursor.rest_ofTransaction]
  obtain ⟨final, ended⟩ : ∃ final,
      Call.ending s (edit.calls s signed.transaction.addressEntries) = (.ok (), final) :=
    ⟨_, Prod.ext (Editor.ending_success_iff.mpr succeeded) rfl⟩
  obtain ⟨new, agree⟩ := Editor.exists_left edit s (address_positions_distinct signed.transaction)
  refine ⟨Editor.given_of_success ended, new, final, agree, edit_run_of_success new bounded agree ended, ?_⟩
  refine ⟨_, locate_v1 _, ?_⟩
  rw [Cursor.rest_ofTransaction]
  exact address_entries_updated new signed.transaction

namespace Sample

/-- A call of a function named `inc`, which calls nothing else. -/
def invocation : Invocation := .node (.call ⟨.contract (.zero 32), [105, 110, 99], []⟩) []

/-- Credentials of an account that has not signed yet. -/
def unsigned (nonce : Int64) : AddressCredentials := ⟨.account ⟨.zero 32⟩, nonce, 5, .scalar .void⟩

/-- An operation that invokes the call above with these entries. -/
def invoking (owners : List Credentials) : Operation :=
  ⟨none, .invokeHostFunction
    ⟨.invoke ⟨.contract (.zero 32), [105, 110, 99], []⟩, owners.map fun owner => ⟨owner, invocation⟩⟩⟩

/-- A transaction of these operations. -/
def transaction (operations : List Operation) : SignedTransaction where
  transaction := {
    sourceAccount := .ed25519 (.zero 32)
    fee := 100
    sequence := 1
    preconditions := .none
    memo := .none
    operations
    resourceData := none }
  signatures := []

/-- Two address entries in different operations, with an entry of the source
account and an operation of another kind before the second. -/
def mixed : SignedTransaction :=
  transaction [invoking [.sourceAccount, .address (unsigned 1)], ⟨none, .bumpSequence 7⟩,
    invoking [.address (unsigned 2)]]

theorem mixed_bounded : mixed.transaction.Bounded := ⟨by decide, by decide⟩

/-- An editor that counts its calls and moves every nonce on. -/
def counting : Editor Nat Unit := fun _ _ (c, n) =>
  (.ok (), ({ c with nonce := c.nonce + 1 }, n + 1))

end Sample

theorem edit_updates_mixed :
    Sample.mixed.transaction.Bounded ∧
      (∀ call ∈ (Envelope.v1 Sample.mixed).editCalls Sample.counting 0, call.Succeeded) ∧
      ∃ new final, (Envelope.edit Sample.counting).run.run (.v1 Sample.mixed, 0) =
        (.ok 2, (.v1 (Sample.mixed.withCredentials new), final)) := by
  have succeeded : ∀ call ∈ (Envelope.v1 Sample.mixed).editCalls Sample.counting 0, call.Succeeded := by
    decide
  obtain ⟨walk, found, _, new, final, _, ran, _⟩ :=
    edit_updates_pointwise Sample.counting 0 Sample.mixed Sample.mixed_bounded succeeded
  cases found
  rw [Cursor.rest_ofTransaction] at ran
  exact ⟨Sample.mixed_bounded, succeeded, new, final, ran⟩

end AuthSigner
