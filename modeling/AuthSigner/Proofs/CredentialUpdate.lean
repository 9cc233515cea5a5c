import AuthSigner.Proofs.EntryWalk

/-! New credentials for the address entries of a transaction, entry by entry and
with nothing else touched. This is what editing is measured against: it is told
from the positions in the transaction alone, without any traversal that edits. -/
namespace AuthSigner

/-- The entry with new credentials, if it is one that an address authorizes. -/
def AuthorizationEntry.withCredentials (new : LocatedEntry → AddressCredentials) (p : Position)
    (e : AuthorizationEntry) : AuthorizationEntry :=
  match e.credentials with
  | .sourceAccount => e
  | .address c => { e with credentials := .address (new ⟨p, e, c⟩) }

/-- The operation with new credentials in its address entries. Its place in the
transaction is part of their positions. -/
def Operation.withCredentials (new : LocatedEntry → AddressCredentials) (index : Nat)
    (o : Operation) : Operation :=
  match o.body with
  | .invokeHostFunction invoke =>
    let auth := invoke.auth.mapIdx fun entry e => e.withCredentials new ⟨index, entry⟩
    { o with body := .invokeHostFunction { invoke with auth } }
  | _ => o

/-- The transaction with new credentials in every address entry. Source, fee,
sequence, preconditions, memo, resources, other operations, host functions,
invocations and source account entries are the same, as is the order of all. -/
def Transaction.withCredentials (new : LocatedEntry → AddressCredentials) (t : Transaction) :
    Transaction :=
  { t with operations := t.operations.mapIdx fun index o => o.withCredentials new index }

/-- The same below the transaction's own signatures, which stay. -/
def SignedTransaction.withCredentials (new : LocatedEntry → AddressCredentials)
    (signed : SignedTransaction) : SignedTransaction :=
  { signed with transaction := signed.transaction.withCredentials new }

/-- A located entry with other credentials. -/
def LocatedEntry.withCredentials (x : LocatedEntry) (c : AddressCredentials) : LocatedEntry :=
  { x with entry := { x.entry with credentials := .address c }, credentials := c }

/-- The credentials beside a located entry are those inside it. -/
def LocatedEntry.Faithful (x : LocatedEntry) : Prop := x.entry.credentials = .address x.credentials

/-- The lists that editing puts back are within the bounds of their places. -/
structure Transaction.Bounded (t : Transaction) : Prop where
  operations : t.operations.length ≤ operationLimit
  entries : ∀ o ∈ t.operations, o.auth.length ≤ Xdr.unbounded

/-- The order of positions: by operation and then by entry. -/
def Position.Before (p q : Position) : Prop :=
  p.operation < q.operation ∨ p.operation = q.operation ∧ p.entry < q.entry

variable {new : LocatedEntry → AddressCredentials}

theorem entry_of_source {e : AuthorizationEntry} (owner : e.credentials = .sourceAccount)
    (p : Position) : e.withCredentials new p = e := by
  simp only [AuthorizationEntry.withCredentials, owner]

theorem entry_of_address {e : AuthorizationEntry} {c : AddressCredentials}
    (owner : e.credentials = .address c) (p : Position) :
    e.withCredentials new p = { e with credentials := .address (new ⟨p, e, c⟩) } := by
  simp only [AuthorizationEntry.withCredentials, owner]

/-! ## Positions and credentials of located entries -/

private theorem getElem?_behind {α : Type} {x : α} {xs : List α} {i j : Nat} (behind : i < j) :
    (x :: xs)[j - i]? = xs[j - (i + 1)]? := by
  rw [show j - i = j - (i + 1) + 1 by omega, List.getElem?_cons_succ]

private theorem mem_from {operation entry : Nat} {es : List AuthorizationEntry} {x : LocatedEntry} :
    x ∈ addressEntriesFrom operation entry es ↔
      x.position.operation = operation ∧ entry ≤ x.position.entry ∧
        es[x.position.entry - entry]? = some x.entry ∧ x.Faithful := by
  induction es generalizing entry with
  | nil => simp [addressEntriesFrom]
  | cons e rest ih =>
    -- the first entry is the one looked for, or it is passed over
    have later : (entry + 1 ≤ x.position.entry ∧ rest[x.position.entry - (entry + 1)]? = some x.entry) ↔
        entry < x.position.entry ∧ (e :: rest)[x.position.entry - entry]? = some x.entry :=
      and_congr_right fun behind => by rw [getElem?_behind behind]
    cases owner : e.credentials with
    | sourceAccount =>
      simp only [addressEntriesFrom, owner, ih]
      constructor
      · rintro ⟨same, bound, found, faithful⟩
        exact ⟨same, Nat.le_of_succ_le bound, (later.mp ⟨bound, found⟩).2, faithful⟩
      · rintro ⟨same, bound, found, faithful⟩
        have behind : entry < x.position.entry := by
          refine Nat.lt_of_le_of_ne bound fun here => ?_
          rw [← here, Nat.sub_self, List.getElem?_cons_zero, Option.some.injEq] at found
          rw [LocatedEntry.Faithful, ← found, owner] at faithful
          cases faithful
        obtain ⟨bound, found⟩ := later.mpr ⟨behind, found⟩
        exact ⟨same, bound, found, faithful⟩
    | address c =>
      simp only [addressEntriesFrom, owner, List.mem_cons, ih]
      constructor
      · rintro (rfl | ⟨same, bound, found, faithful⟩)
        · exact ⟨rfl, Nat.le_refl _, by rw [Nat.sub_self, List.getElem?_cons_zero], owner⟩
        · exact ⟨same, Nat.le_of_succ_le bound, (later.mp ⟨bound, found⟩).2, faithful⟩
      · rintro ⟨same, bound, found, faithful⟩
        rcases Nat.eq_or_lt_of_le bound with here | behind
        · rw [← here, Nat.sub_self, List.getElem?_cons_zero, Option.some.injEq] at found
          rw [LocatedEntry.Faithful, ← found, owner, Credentials.address.injEq] at faithful
          obtain ⟨⟨i, j⟩, entry', credentials⟩ := x
          simp only at same here found faithful
          subst same here found faithful
          exact .inl rfl
        · obtain ⟨bound, found⟩ := later.mpr ⟨behind, found⟩
          exact .inr ⟨same, bound, found, faithful⟩

private theorem mem_in {index : Nat} {operations : List Operation} {x : LocatedEntry} :
    x ∈ addressEntriesIn index operations ↔
      ∃ o, index ≤ x.position.operation ∧ operations[x.position.operation - index]? = some o ∧
        o.auth[x.position.entry]? = some x.entry ∧ x.Faithful := by
  induction operations generalizing index with
  | nil => simp
  | cons o later ih =>
    rw [addressEntriesIn_cons, List.mem_append, mem_from, ih]
    constructor
    · rintro (⟨same, _, found, faithful⟩ | ⟨o', bound, there, found, faithful⟩)
      · refine ⟨o, Nat.le_of_eq same.symm, ?_, found, faithful⟩
        rw [same, Nat.sub_self, List.getElem?_cons_zero]
      · refine ⟨o', Nat.le_of_succ_le bound, ?_, found, faithful⟩
        rw [getElem?_behind bound]
        exact there
    · rintro ⟨o', bound, there, found, faithful⟩
      rcases Nat.eq_or_lt_of_le bound with here | behind
      · rw [← here, Nat.sub_self, List.getElem?_cons_zero, Option.some.injEq] at there
        rw [there]
        exact .inl ⟨here.symm, Nat.zero_le _, found, faithful⟩
      · rw [getElem?_behind behind] at there
        exact .inr ⟨o', behind, there, found, faithful⟩

/-- The address entries are what stands in the transaction at their positions, with
the credentials of an address. -/
theorem mem_addressEntries_iff {t : Transaction} {x : LocatedEntry} :
    x ∈ t.addressEntries ↔ ∃ o, t.operations[x.position.operation]? = some o ∧
      o.auth[x.position.entry]? = some x.entry ∧ x.Faithful := by
  rw [addressEntries_eq, mem_in]
  simp only [Nat.zero_le, true_and, Nat.sub_zero]

theorem located_faithful {t : Transaction} {x : LocatedEntry} (member : x ∈ t.addressEntries) :
    x.Faithful := by
  obtain ⟨_, _, _, faithful⟩ := mem_addressEntries_iff.mp member
  exact faithful

private theorem ordered_from (operation entry : Nat) (es : List AuthorizationEntry) :
    (addressEntriesFrom operation entry es).Pairwise fun x y => x.position.Before y.position := by
  induction es generalizing entry with
  | nil => exact .nil
  | cons e rest ih =>
    unfold addressEntriesFrom
    split
    · exact ih _
    · refine List.pairwise_cons.mpr ⟨?_, ih _⟩
      intro y member
      obtain ⟨same, bound, _⟩ := mem_from.mp member
      exact .inr ⟨same.symm, bound⟩

private theorem ordered_in (index : Nat) (operations : List Operation) :
    (addressEntriesIn index operations).Pairwise fun x y => x.position.Before y.position := by
  induction operations generalizing index with
  | nil => exact .nil
  | cons o later ih =>
    rw [addressEntriesIn_cons]
    refine List.pairwise_append.mpr ⟨ordered_from _ _ _, ih _, ?_⟩
    intro x here y there
    obtain ⟨own, _⟩ := mem_from.mp here
    obtain ⟨_, behind, _⟩ := mem_in.mp there
    exact .inl (by omega)

/-- The address entries stand in the order of their positions. -/
theorem address_entries_ordered (t : Transaction) :
    t.addressEntries.Pairwise fun x y => x.position.Before y.position :=
  ordered_in 0 t.operations

/-- No position comes twice among the address entries. -/
theorem address_positions_distinct (t : Transaction) : (t.addressEntries.map (·.position)).Nodup := by
  refine List.pairwise_map.mpr ((address_entries_ordered t).imp ?_)
  intro x y before same
  unfold Position.Before at before
  rw [same] at before
  omega

/-- Anything given to entries one by one is a function of the entry, if no position
comes twice. -/
theorem exists_assignment {α : Type} {xs : List LocatedEntry} {ys : List α}
    (distinct : (xs.map (·.position)).Nodup) (same : ys.length = xs.length) (other : LocatedEntry → α) :
    ∃ assigned : LocatedEntry → α, xs.map assigned = ys := by
  induction xs generalizing ys with
  | nil => exact ⟨other, (List.eq_nil_of_length_eq_zero same).symm⟩
  | cons x xs ih =>
    obtain ⟨y, ys, rfl⟩ := List.exists_cons_of_length_eq_add_one same
    rw [List.map_cons, List.nodup_cons] at distinct
    obtain ⟨assigned, agree⟩ := ih distinct.2 (Nat.succ.inj same)
    refine ⟨fun z => if z.position = x.position then y else assigned z, ?_⟩
    rw [List.map_cons, if_pos rfl, ← agree]
    refine congrArg (y :: ·) (List.map_congr_left fun z member => if_neg ?_)
    intro taken
    exact distinct.1 (taken ▸ List.mem_map_of_mem member)

/-! ## The entries of an updated transaction -/

private theorem update_from (new : LocatedEntry → AddressCredentials) (operation entry : Nat)
    (es : List AuthorizationEntry) :
    addressEntriesFrom operation entry
        (es.mapIdx fun i e => e.withCredentials new ⟨operation, entry + i⟩) =
      (addressEntriesFrom operation entry es).map fun x => x.withCredentials (new x) := by
  induction es generalizing entry with
  | nil => rfl
  | cons e rest ih =>
    have later := ih (entry + 1)
    simp only [Nat.add_right_comm] at later
    simp only [List.mapIdx_cons, Nat.add_zero, ← Nat.add_assoc]
    cases owner : e.credentials with
    | sourceAccount =>
      rw [entry_of_source owner]
      simpa only [addressEntriesFrom, owner] using later
    | address c =>
      rw [entry_of_address owner]
      simp only [addressEntriesFrom, owner, List.map_cons, later]
      rfl

/-- The authorization entries of an updated operation. -/
theorem auth_withCredentials (index : Nat) (o : Operation) :
    (o.withCredentials new index).auth =
      o.auth.mapIdx fun entry e => e.withCredentials new ⟨index, entry⟩ := by
  cases o with
  | mk sourceAccount body => cases body <;> rfl

private theorem update_in (new : LocatedEntry → AddressCredentials) (index : Nat)
    (operations : List Operation) :
    addressEntriesIn index (operations.mapIdx fun i o => o.withCredentials new (index + i)) =
      (addressEntriesIn index operations).map fun x => x.withCredentials (new x) := by
  induction operations generalizing index with
  | nil => rfl
  | cons o later ih =>
    have rest := ih (index + 1)
    simp only [Nat.add_right_comm] at rest
    have own := update_from new index 0 o.auth
    simp only [Nat.zero_add] at own
    simp only [List.mapIdx_cons, Nat.add_zero, ← Nat.add_assoc, addressEntriesIn_cons,
      auth_withCredentials, List.map_append, own, rest]

/-- Updating keeps every position and invocation and puts the new credentials there. -/
theorem address_entries_updated (new : LocatedEntry → AddressCredentials) (t : Transaction) :
    (t.withCredentials new).addressEntries =
      t.addressEntries.map fun x => x.withCredentials (new x) := by
  have updated := update_in new 0 t.operations
  simp only [Nat.zero_add] at updated
  exact updated

end AuthSigner
