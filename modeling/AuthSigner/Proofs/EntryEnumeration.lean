import AuthSigner.Proofs.Arrangement
import AuthSigner.Proofs.IndependentWalks

/-! What locating finds. The address entries are tabulated by their indices, without any walk: for
each operation that invokes a host function, and for each entry of it, the entry if an address
authorizes it. A walk that is stepped on and on gives this table, entry by entry, and then nothing
for ever. -/
namespace AuthSigner

variable {α β : Type}

/-- The entry as one that was found at a position, if an address authorizes it. -/
def AuthorizationEntry.locatedAt? (p : Position) (e : AuthorizationEntry) : Option LocatedEntry :=
  match e.credentials with
  | .address credentials => some ⟨p, e, credentials⟩
  | .sourceAccount => none

/-- The address entries of an operation with an index, by their own indices. -/
def Operation.tabulated (index : Nat) (o : Operation) : List LocatedEntry :=
  match o.body with
  | .invokeHostFunction invoke =>
    (List.range invoke.auth.length).filterMap fun entry =>
      (invoke.auth[entry]?).bind (AuthorizationEntry.locatedAt? ⟨index, entry⟩)
  | _ => []

/-- The address entries of a transaction, by the indices of the operations. -/
def Transaction.tabulated (t : Transaction) : List LocatedEntry :=
  (List.range t.operations.length).flatMap fun index =>
    ((t.operations[index]?).map (Operation.tabulated index)).getD []

/-! ## The table is the list of the address entries -/

/-- Going over the elements of a list is going over its indices. -/
theorem filterMap_range (f : Nat → α → Option β) (start : Nat) (xs : List α) :
    (List.range xs.length).filterMap (fun i => (xs[i]?).bind (f (start + i))) =
      (xs.zipIdx start).filterMap fun (x, i) => f i x := by
  induction xs generalizing start with
  | nil => rfl
  | cons x xs ih =>
    have later := ih (start + 1)
    simp only [Nat.add_right_comm start 1] at later
    rw [List.length_cons, List.range_succ_eq_map, List.zipIdx_cons, List.filterMap_cons, List.filterMap_cons,
      List.filterMap_map, ← later]
    rfl

theorem flatMap_range (f : Nat → α → List β) (start : Nat) (xs : List α) :
    (List.range xs.length).flatMap (fun i => ((xs[i]?).map (f (start + i))).getD []) =
      (xs.zipIdx start).flatMap fun (x, i) => f i x := by
  induction xs generalizing start with
  | nil => rfl
  | cons x xs ih =>
    have later := ih (start + 1)
    simp only [Nat.add_right_comm start 1] at later
    rw [List.length_cons, List.range_succ_eq_map, List.zipIdx_cons, List.flatMap_cons, List.flatMap_cons,
      List.flatMap_map, ← later]
    rfl

theorem addressEntriesFrom_eq (operation entry : Nat) (es : List AuthorizationEntry) :
    addressEntriesFrom operation entry es =
      (es.zipIdx entry).filterMap fun (e, i) => e.locatedAt? ⟨operation, i⟩ := by
  induction es generalizing entry with
  | nil => rfl
  | cons e rest ih =>
    rw [List.zipIdx_cons, List.filterMap_cons, ← ih (entry + 1)]
    cases owner : e.credentials with
    | sourceAccount => simp only [addressEntriesFrom, AuthorizationEntry.locatedAt?, owner]
    | address credentials => simp only [addressEntriesFrom, AuthorizationEntry.locatedAt?, owner]

theorem tabulated_operation (index : Nat) (o : Operation) :
    o.tabulated index = addressEntriesFrom index 0 o.auth := by
  cases o with
  | mk sourceAccount body =>
    cases body with
    | invokeHostFunction invoke =>
      rw [addressEntriesFrom_eq, ← filterMap_range fun entry => AuthorizationEntry.locatedAt? ⟨index, entry⟩]
      simp only [Nat.zero_add]
      rfl
    | _ => rfl

theorem tabulated_eq (t : Transaction) : t.tabulated = t.addressEntries := by
  have table := flatMap_range Operation.tabulated 0 t.operations
  simp only [Nat.zero_add, tabulated_operation] at table
  rw [Transaction.tabulated, addressEntries_eq, addressEntriesIn, ← table]

/-! ## Step after step -/

namespace Cursor

/-- The cursor after some steps. -/
def after (c : Cursor) : Nat → Cursor
  | 0 => c
  | steps + 1 => c.next.2.after steps

/-- Each step leaves one entry less ahead. -/
theorem ahead_after (c : Cursor) (steps : Nat) : (c.after steps).ahead = c.ahead.drop steps := by
  induction steps generalizing c with
  | zero => rfl
  | succ steps ih => rw [after, ih, (next_takes_head c).2, List.drop_tail]

/-- A step gives the entry that is as far ahead as there were steps before, if there is one. -/
theorem next_after (c : Cursor) (steps : Nat) : (c.after steps).next.1 = c.ahead[steps]? := by
  rw [(next_takes_head _).1, ahead_after, List.head?_drop]

end Cursor

/-- An address entry stands at a position exactly if there is an entry with credentials of an address. -/
theorem position_located_iff {t : Transaction} {p : Position} :
    (∃ x ∈ t.addressEntries, x.position = p) ↔
      ∃ e credentials, t.entryAt? p = some e ∧ e.credentials = .address credentials := by
  constructor
  · rintro ⟨x, member, rfl⟩
    obtain ⟨found, owner⟩ := mem_addressEntries_iff_entryAt.mp member
    exact ⟨x.entry, x.credentials, found, owner⟩
  · rintro ⟨e, credentials, found, owner⟩
    exact ⟨⟨p, e, credentials⟩, mem_addressEntries_iff_entryAt.mpr ⟨found, owner⟩, rfl⟩

theorem message_v0 : UnsupportedEnvelope.message .v0 =
    "unsupported transaction envelope type: TxV0; only v1 transaction envelopes can have their authorizations signed" := by
  decide +kernel

theorem message_feeBump : UnsupportedEnvelope.message .feeBump =
    "unsupported transaction envelope type: TxFeeBump; only v1 transaction envelopes can have their authorizations signed" := by
  decide +kernel

/-- Locating finds the entries that an address authorizes, and no others. The steps of the walk that it
gives, one by one, are the entries of the table, and each step after the last of them finds
nothing; walking to the end gives the table. A position is in the table exactly if the entry at it has the
credentials of an address; each entry of the table is the one at its position, with the
credentials that it has there; and the positions come in their order, so that none comes twice.
Envelopes of the other kinds are refused with a report that tells their kind. -/
theorem address_entries_located (signed : SignedTransaction) :
    (∃ walk, (Envelope.v1 signed).locate = .ok walk ∧
      (∀ steps, (walk.after steps).next.1 = signed.transaction.tabulated[steps]?) ∧
      walk.rest = signed.transaction.tabulated) ∧
    (∀ p, (∃ x ∈ signed.transaction.tabulated, x.position = p) ↔
      ∃ e credentials, signed.transaction.entryAt? p = some e ∧ e.credentials = .address credentials) ∧
    (∀ x ∈ signed.transaction.tabulated, signed.transaction.entryAt? x.position = some x.entry ∧
      x.entry.credentials = .address x.credentials) ∧
    (signed.transaction.tabulated.Pairwise fun x y => x.position.Before y.position) ∧
    (∀ t, (Envelope.v0 t).locate.mapError UnsupportedEnvelope.message = .error
      "unsupported transaction envelope type: TxV0; only v1 transaction envelopes can have their authorizations signed") ∧
    (∀ t, (Envelope.feeBump t).locate.mapError UnsupportedEnvelope.message = .error
      "unsupported transaction envelope type: TxFeeBump; only v1 transaction envelopes can have their authorizations signed") := by
  rw [tabulated_eq]
  refine ⟨⟨_, locate_v1 signed, ?_, Cursor.rest_ofTransaction _⟩, fun p => position_located_iff, ?_,
    address_entries_ordered _, fun t => congrArg Except.error message_v0,
    fun t => congrArg Except.error message_feeBump⟩
  · intro steps
    rw [Cursor.next_after, ← Cursor.rest_eq_ahead, Cursor.rest_ofTransaction]
  · intro x member
    exact mem_addressEntries_iff_entryAt.mp member

theorem address_entries_located_mixed :
    ∃ walk, (Envelope.v1 Sample.mixed).locate = .ok walk ∧
      (walk.after 0).next.1 = some Sample.earlierEntry ∧ (walk.after 1).next.1 = some Sample.laterEntry ∧
      (walk.after 2).next.1 = none ∧ (walk.after 9).next.1 = none ∧
      Sample.mixed.transaction.entryAt? ⟨2, 0⟩ = some Sample.laterEntry.entry ∧
      ¬ ∃ x ∈ Sample.mixed.transaction.tabulated, x.position = ⟨0, 0⟩ := by
  obtain ⟨⟨walk, found, steps, _⟩, positions, standing, _, _, _⟩ := address_entries_located Sample.mixed
  have later : Sample.laterEntry ∈ Sample.mixed.transaction.tabulated := List.mem_of_getElem? (i := 1) rfl
  refine ⟨walk, found, steps 0, steps 1, steps 2, steps 9, (standing _ later).1, ?_⟩
  rw [positions]
  rintro ⟨e, credentials, there, owner⟩
  cases there
  cases owner

end AuthSigner
