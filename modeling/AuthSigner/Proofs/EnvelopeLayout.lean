import AuthSigner.Proofs.ByteSplice
import AuthSigner.Proofs.CredentialUpdate

/-! An envelope as a layout of bytes. The expiration and the signature of each address
entry are a slot, with the entry's nonce before it and its invocation behind it, and all
other bytes stay. Updating credentials puts other pieces into the same layout. -/
namespace AuthSigner
open Xdr Fragment

namespace LocatedEntry

/-- The bytes of the nonce, which stand just before the expiration. -/
def nonceBytes (x : LocatedEntry) : Bytes := Codec.i64.write x.credentials.nonce

/-- The bytes of the root invocation, which stand just behind the signature. -/
def invocationBytes (x : LocatedEntry) : Bytes := x.entry.rootInvocation.write

end LocatedEntry

/-- The bytes of an expiration and a signature. -/
def AddressCredentials.piece (c : AddressCredentials) : Bytes :=
  Codec.u32.write c.expiration ++ c.signature.write

/-- The layout of the entries of one operation, the first of which has the index `entry`. -/
def layoutFrom (operation : Nat) : Nat → List AuthorizationEntry → List (Fragment LocatedEntry)
  | _, [] => []
  | entry, e :: rest =>
    match e.credentials with
    | .sourceAccount => .kept (AuthorizationEntry.codec.write e) :: layoutFrom operation (entry + 1) rest
    | .address c =>
      .kept (count 1 ++ Address.codec.write c.address) :: .slot ⟨⟨operation, entry⟩, e, c⟩ ::
        layoutFrom operation (entry + 1) rest

/-- The layout of an operation, whose place in the transaction is part of its slots. -/
def Operation.layout (index : Nat) (o : Operation) : List (Fragment LocatedEntry) :=
  match o.body with
  | .invokeHostFunction invoke =>
    .kept ((Codec.option MuxedAccount.codec).write o.sourceAccount ++ (count 24 ++
      (HostFunction.codec.write invoke.function ++ count invoke.auth.length))) ::
      layoutFrom index 0 invoke.auth
  | _ => [.kept (Operation.codec.write o)]

/-- The layout of operations the first of which has the index `index`. -/
def layoutIn (index : Nat) (operations : List Operation) : List (Fragment LocatedEntry) :=
  (operations.zipIdx index).flatMap fun (o, i) => o.layout i

@[simp] theorem layoutIn_nil (index : Nat) : layoutIn index [] = [] := rfl

@[simp] theorem layoutIn_cons (index : Nat) (o : Operation) (later : List Operation) :
    layoutIn index (o :: later) = o.layout index ++ layoutIn (index + 1) later := rfl

/-- What stands before the operations of a transaction's envelope. -/
def SignedTransaction.head (signed : SignedTransaction) : Bytes :=
  let t := signed.transaction
  count 2 ++ (MuxedAccount.codec.write t.sourceAccount ++ (Codec.u32.write t.fee ++
    (Codec.i64.write t.sequence ++ (Preconditions.codec.write t.preconditions ++
      (Memo.codec.write t.memo ++ count t.operations.length)))))

/-- What stands behind them. -/
def SignedTransaction.tail (signed : SignedTransaction) : Bytes :=
  (Codec.option ResourceData.codec).write signed.transaction.resourceData ++
    (Codec.list 20 DecoratedSignature.codec).write signed.signatures

def SignedTransaction.layout (signed : SignedTransaction) : List (Fragment LocatedEntry) :=
  .kept signed.head :: (layoutIn 0 signed.transaction.operations ++ [.kept signed.tail])

/-- What stays before, between and behind the expirations and signatures. -/
def SignedTransaction.blocks (signed : SignedTransaction) : Bytes × List Bytes :=
  Fragment.blocks LocatedEntry.nonceBytes LocatedEntry.invocationBytes signed.layout

/-! ## The slots are the address entries -/

theorem slots_from (operation entry : Nat) (es : List AuthorizationEntry) :
    slots (layoutFrom operation entry es) = addressEntriesFrom operation entry es := by
  induction es generalizing entry with
  | nil => rfl
  | cons e rest ih => cases owner : e.credentials <;> simp [layoutFrom, addressEntriesFrom, owner, slots, ih]

theorem slots_operation (index : Nat) (o : Operation) :
    slots (o.layout index) = addressEntriesFrom index 0 o.auth := by
  cases o with
  | mk sourceAccount body =>
    cases body with
    | invokeHostFunction invoke => exact slots_from index 0 invoke.auth
    | _ => rfl

theorem slots_in (index : Nat) (operations : List Operation) :
    slots (layoutIn index operations) = addressEntriesIn index operations := by
  induction operations generalizing index with
  | nil => rfl
  | cons o later ih => rw [layoutIn_cons, slots_append, slots_operation, ih, addressEntriesIn_cons]

theorem slots_layout (signed : SignedTransaction) : slots signed.layout = signed.transaction.addressEntries := by
  change slots (layoutIn 0 signed.transaction.operations ++ [_]) = _
  rw [slots_append, slots_in, addressEntries_eq]
  exact List.append_nil _

/-! ## Updating puts pieces into the layout -/

variable {new : LocatedEntry → AddressCredentials}

/-- New credentials of the same address, for the same nonce. -/
def Keeping (new : LocatedEntry → AddressCredentials) : Prop :=
  ∀ x, (new x).address = x.credentials.address ∧ (new x).nonce = x.credentials.nonce

theorem keeping_own : Keeping (·.credentials) := fun _ => ⟨rfl, rfl⟩

/-- A layout with the expirations and signatures of these credentials in its slots. -/
abbrev spelled (new : LocatedEntry → AddressCredentials) : List (Fragment LocatedEntry) → Bytes :=
  spell LocatedEntry.nonceBytes LocatedEntry.invocationBytes fun x => (new x).piece

/-- An entry of an address is its slot's surroundings with a piece in between. -/
theorem write_address (c : AddressCredentials) (i : Invocation) :
    AuthorizationEntry.codec.write ⟨.address c, i⟩ = (count 1 ++ Address.codec.write c.address) ++
      (Codec.i64.write c.nonce ++ c.piece ++ i.write) := by
  change (count 1 ++ (Address.codec.write c.address ++ (Codec.i64.write c.nonce ++ c.piece))) ++ i.write = _
  simp only [List.append_assoc]

theorem write_from (keeping : Keeping new) (operation entry : Nat) (es : List AuthorizationEntry) :
    (es.mapIdx fun i e => e.withCredentials new ⟨operation, entry + i⟩).flatMap AuthorizationEntry.codec.write =
      spelled new (layoutFrom operation entry es) := by
  induction es generalizing entry with
  | nil => rfl
  | cons e rest ih =>
    have later := ih (entry + 1)
    simp only [Nat.add_right_comm] at later
    simp only [List.mapIdx_cons, Nat.add_zero, ← Nat.add_assoc, List.flatMap_cons, later]
    cases owner : e.credentials with
    | sourceAccount =>
      rw [entry_of_source owner]
      simp only [layoutFrom, owner]
      rfl
    | address c =>
      obtain ⟨address, nonce⟩ := keeping ⟨⟨operation, entry⟩, e, c⟩
      rw [entry_of_address owner, write_address, address, nonce, List.append_assoc]
      simp only [layoutFrom, owner]
      rfl

theorem write_operation (keeping : Keeping new) (index : Nat) (o : Operation) :
    Operation.codec.write (o.withCredentials new index) = spelled new (o.layout index) := by
  cases o with
  | mk sourceAccount body =>
    cases body with
    | invokeHostFunction invoke =>
      have entries := write_from keeping index 0 invoke.auth
      simp only [Nat.zero_add] at entries
      change (Codec.option MuxedAccount.codec).write sourceAccount ++ (count 24 ++
        (HostFunction.codec.write invoke.function ++ (count (invoke.auth.mapIdx _).length ++ _))) = _
      rw [entries, List.length_mapIdx]
      simp only [Operation.layout, spelled, spell, List.append_assoc]
    | _ => exact (List.append_nil _).symm

theorem write_in (keeping : Keeping new) (index : Nat) (operations : List Operation) :
    (operations.mapIdx fun i o => o.withCredentials new (index + i)).flatMap Operation.codec.write =
      spelled new (layoutIn index operations) := by
  induction operations generalizing index with
  | nil => rfl
  | cons o later ih =>
    have rest := ih (index + 1)
    simp only [Nat.add_right_comm] at rest
    simp only [List.mapIdx_cons, Nat.add_zero, ← Nat.add_assoc, List.flatMap_cons, rest, layoutIn_cons]
    rw [write_operation keeping, spelled, spell_append]

theorem write_envelope (signed : SignedTransaction) : Envelope.codec.write (.v1 signed) =
    signed.head ++ (signed.transaction.operations.flatMap Operation.codec.write ++ signed.tail) := by
  change count 2 ++ ((MuxedAccount.codec.write signed.transaction.sourceAccount ++ (_ ++ (_ ++ (_ ++ (_ ++
    ((count signed.transaction.operations.length ++ signed.transaction.operations.flatMap _) ++ _)))))) ++ _) = _
  simp only [SignedTransaction.head, SignedTransaction.tail, List.append_assoc]

/-- An updated envelope is the layout of the one before with the new pieces. -/
theorem write_withCredentials (keeping : Keeping new) (signed : SignedTransaction) :
    Envelope.codec.write (.v1 (signed.withCredentials new)) = spelled new signed.layout := by
  have operations := write_in keeping 0 signed.transaction.operations
  simp only [Nat.zero_add] at operations
  have head : (signed.withCredentials new).head = signed.head := by
    simp only [SignedTransaction.head, SignedTransaction.withCredentials, Transaction.withCredentials,
      List.length_mapIdx]
  rw [write_envelope, head]
  simp only [SignedTransaction.layout, spelled, spell, spell_append, List.append_nil]
  rw [← spelled, ← operations]
  rfl

/-! ## What stays -/

private theorem mapIdx_unchanged {α : Type} {f : Nat → α → α} (same : ∀ i x, f i x = x) (xs : List α) :
    xs.mapIdx f = xs := by
  apply List.ext_getElem?
  intro i
  rw [List.getElem?_mapIdx]
  cases xs[i]? with
  | none => rfl
  | some x => exact congrArg some (same i x)

theorem entry_unchanged (p : Position) (e : AuthorizationEntry) : e.withCredentials (·.credentials) p = e := by
  cases owner : e.credentials with
  | sourceAccount => exact entry_of_source owner p
  | address c => rw [entry_of_address owner, ← owner]

theorem operation_unchanged (index : Nat) (o : Operation) : o.withCredentials (·.credentials) index = o := by
  cases o with
  | mk sourceAccount body =>
    cases body with
    | invokeHostFunction invoke =>
      simp only [Operation.withCredentials, mapIdx_unchanged fun i e => entry_unchanged ⟨index, i⟩ e]
    | _ => rfl

/-- Putting back the credentials that are there changes nothing. -/
theorem envelope_unchanged (signed : SignedTransaction) : signed.withCredentials (·.credentials) = signed := by
  simp only [SignedTransaction.withCredentials, Transaction.withCredentials,
    mapIdx_unchanged operation_unchanged]

/-- The envelope itself is its layout with its own pieces. -/
theorem write_layout (signed : SignedTransaction) :
    Envelope.codec.write (.v1 signed) = spelled (·.credentials) signed.layout := by
  have itself := write_withCredentials keeping_own signed
  rw [envelope_unchanged] at itself
  exact itself

/-- Whatever credentials are put in, the same blocks stand between their pieces. -/
theorem layout_eq_splice (signed : SignedTransaction) : spelled new signed.layout =
    splice signed.blocks.1 (signed.transaction.addressEntries.map fun x => (new x).piece)
      signed.blocks.2 := by
  rw [spelled, spell_eq_splice, slots_layout, SignedTransaction.blocks]

theorem no_address_entries {es : List AuthorizationEntry} (source : ∀ e ∈ es, e.credentials = .sourceAccount)
    (operation entry : Nat) : addressEntriesFrom operation entry es = [] := by
  induction es generalizing entry with
  | nil => rfl
  | cons e rest ih =>
    rw [List.forall_mem_cons] at source
    simp only [addressEntriesFrom, source.1]
    exact ih source.2 _

/-- An operation without address entries stays whole. -/
theorem operation_stays {o : Operation} (source : ∀ e ∈ o.auth, e.credentials = .sourceAccount)
    (index : Nat) : Stays (Operation.codec.write o) (o.layout index) := by
  have none : slots (o.layout index) = [] := by rw [slots_operation, no_address_entries source]
  have whole := write_operation keeping_own index o
  rw [operation_unchanged] at whole
  rw [whole]
  exact stays_of_no_slots none

private theorem stays_from {es : List AuthorizationEntry} {e : AuthorizationEntry} (member : e ∈ es)
    (owner : e.credentials = .sourceAccount) (operation entry : Nat) :
    Stays (AuthorizationEntry.codec.write e) (layoutFrom operation entry es) := by
  induction es generalizing entry with
  | nil => cases member
  | cons e' rest ih =>
    rcases List.mem_cons.mp member with rfl | later
    · simp only [layoutFrom, owner]
      exact ⟨[], [AuthorizationEntry.codec.write e], _, rfl, List.append_nil _⟩
    · have behind := ih later (entry + 1)
      cases owner' : e'.credentials with
      | sourceAccount =>
        simp only [layoutFrom, owner']
        exact behind.right [_]
      | address c =>
        simp only [layoutFrom, owner']
        exact behind.right [_, _]

/-- An entry of the source account stays whole. -/
theorem entry_stays {o : Operation} {e : AuthorizationEntry} (member : e ∈ o.auth)
    (owner : e.credentials = .sourceAccount) (index : Nat) :
    Stays (AuthorizationEntry.codec.write e) (o.layout index) := by
  cases o with
  | mk sourceAccount body =>
    cases body with
    | invokeHostFunction invoke => exact (stays_from member owner index 0).right [_]
    | _ => cases member

theorem stays_in {operations : List Operation} {o : Operation} {bytes : Bytes} (member : o ∈ operations)
    (stays : ∀ index, Stays bytes (o.layout index)) (index : Nat) : Stays bytes (layoutIn index operations) := by
  induction operations generalizing index with
  | nil => cases member
  | cons first later ih =>
    rcases List.mem_cons.mp member with rfl | further
    · exact (stays index).left _
    · exact (ih further (index + 1)).right _

/-- What stays of an operation stays of the envelope. -/
theorem layout_stays {signed : SignedTransaction} {o : Operation} {bytes : Bytes}
    (member : o ∈ signed.transaction.operations) (stays : ∀ index, Stays bytes (o.layout index)) :
    Stays bytes signed.layout :=
  ((stays_in member stays 0).left _).right [_]

/-- Updating credentials is a splice: the blocks between the expirations and signatures are
the same, each entry has its nonce and its root invocation at the edges of the blocks around
it, and what has no address entry lies within a block. -/
theorem update_splices (keeping : Keeping new) (signed : SignedTransaction) :
    ∃ (first : Bytes) (later : List Bytes),
      later.length = signed.transaction.addressEntries.length ∧
      Envelope.codec.write (.v1 signed) =
        splice first (signed.transaction.addressEntries.map fun x => x.credentials.piece) later ∧
      Envelope.codec.write (.v1 (signed.withCredentials new)) =
        splice first (signed.transaction.addressEntries.map fun x => (new x).piece) later ∧
      (∀ (i : Nat) (x : LocatedEntry), signed.transaction.addressEntries[i]? = some x → ∃ left right,
        (first :: later)[i]? = some (left ++ x.nonceBytes) ∧
        later[i]? = some (x.invocationBytes ++ right)) ∧
      (∀ o ∈ signed.transaction.operations, (∀ e ∈ o.auth, e.credentials = .sourceAccount) →
        ∃ b ∈ first :: later, Operation.codec.write o <:+: b) ∧
      (∀ o ∈ signed.transaction.operations, ∀ e ∈ o.auth, e.credentials = .sourceAccount →
        ∃ b ∈ first :: later, AuthorizationEntry.codec.write e <:+: b) := by
  refine ⟨signed.blocks.1, signed.blocks.2, ?_, ?_, ?_, ?_, ?_, ?_⟩
  · rw [SignedTransaction.blocks, blocks_length, slots_layout]
  · rw [write_layout, layout_eq_splice]
  · rw [write_withCredentials keeping, layout_eq_splice]
  · intro i x here
    rw [← slots_layout] at here
    exact block_around here
  · intro o member source
    exact (layout_stays member (operation_stays source)).within_block
  · intro o member e entry owner
    exact (layout_stays member (entry_stays entry owner)).within_block

end AuthSigner
