import AuthSigner.Proofs.CredentialUpdate
import Mathlib.Data.List.Nodup
import Mathlib.Logic.Equiv.Basic

/-! Transactions whose operations, and the entries within them, stand in another order. An
entry is looked up by its position, and every position of the new order has the one from which
its entry came. An update that does not look at positions may be made before or after. -/
namespace AuthSigner

variable {α : Type}

/-- The elements of a list in another order: at each place stands the one that was at the place
`order` gives for it. -/
def rearrange (order : Equiv.Perm Nat) (xs : List α) : List α :=
  xs.mapIdx fun i x => (xs[order i]?).getD x

/-- The order moves no place from a number on. -/
def Within (order : Equiv.Perm Nat) (bound : Nat) : Prop := ∀ i, bound ≤ i → order i = i

@[simp] theorem length_rearrange (order : Equiv.Perm Nat) (xs : List α) :
    (rearrange order xs).length = xs.length := by
  rw [rearrange, List.length_mapIdx]

theorem lt_of_within {order : Equiv.Perm Nat} {bound i : Nat} (within : Within order bound)
    (inside : i < bound) : order i < bound := by
  by_cases lands : order i < bound
  · exact lands
  · -- a place outside would be its own image, and that of this place too
    have stays : order (order i) = order i := within _ (Nat.le_of_not_lt lands)
    have same : order i = i := order.injective stays
    rwa [same]

theorem getElem?_rearrange {order : Equiv.Perm Nat} {xs : List α} (within : Within order xs.length)
    (i : Nat) : (rearrange order xs)[i]? = xs[order i]? := by
  rw [rearrange, List.getElem?_mapIdx]
  by_cases inside : i < xs.length
  · have lands : order i < xs.length := lt_of_within within inside
    rw [List.getElem?_eq_getElem inside, List.getElem?_eq_getElem lands]
    rfl
  · have past : xs.length ≤ i := Nat.le_of_not_lt inside
    rw [within i past, List.getElem?_eq_none past]
    rfl

/-- The operation with its entries in another order. -/
def Operation.rearranged (order : Equiv.Perm Nat) (o : Operation) : Operation :=
  match o.body with
  | .invokeHostFunction invoke =>
    { o with body := .invokeHostFunction { invoke with auth := rearrange order invoke.auth } }
  | _ => o

theorem auth_rearranged (order : Equiv.Perm Nat) (o : Operation) :
    (o.rearranged order).auth = rearrange order o.auth := by
  cases o with
  | mk sourceAccount body => cases body <;> rfl

/-- An order of operations, and of the entries of each of them. -/
structure Arrangement where
  operation : Equiv.Perm Nat
  /-- For an operation, by the index that it had, the order of its entries. -/
  entry : Nat → Equiv.Perm Nat

/-- The order is one of the operations and entries that the transaction has. -/
structure Arrangement.Suits (a : Arrangement) (t : Transaction) : Prop where
  operations : Within a.operation t.operations.length
  entries : ∀ i o, t.operations[i]? = some o → Within (a.entry i) o.auth.length

/-- The position at which an entry stood before. -/
def Arrangement.before (a : Arrangement) : Equiv.Perm Position where
  toFun p := ⟨a.operation p.operation, a.entry (a.operation p.operation) p.entry⟩
  invFun p := ⟨a.operation.symm p.operation, (a.entry p.operation).symm p.entry⟩
  left_inv p := by simp only [Equiv.symm_apply_apply]
  right_inv p := by simp only [Equiv.apply_symm_apply]

/-- The transaction in another order, with all else as it is. -/
def Transaction.rearranged (a : Arrangement) (t : Transaction) : Transaction :=
  { t with operations := rearrange a.operation (t.operations.mapIdx fun i o => o.rearranged (a.entry i)) }

def SignedTransaction.rearranged (a : Arrangement) (signed : SignedTransaction) : SignedTransaction :=
  { signed with transaction := signed.transaction.rearranged a }

/-- The entry at a position. -/
def Transaction.entryAt? (t : Transaction) (p : Position) : Option AuthorizationEntry :=
  (t.operations[p.operation]?).bind fun o => o.auth[p.entry]?

variable {t : Transaction} {a : Arrangement} {new : LocatedEntry → AddressCredentials}

/-- The address entries are the entries at their positions, if their credentials are an address's. -/
theorem mem_addressEntries_iff_entryAt {x : LocatedEntry} :
    x ∈ t.addressEntries ↔ t.entryAt? x.position = some x.entry ∧ x.Faithful := by
  rw [mem_addressEntries_iff, Transaction.entryAt?, Option.bind_eq_some_iff, ← exists_and_right]
  exact exists_congr fun o => and_assoc.symm

/-- An updated transaction has at each position the updated entry. -/
theorem entryAt_withCredentials (t : Transaction) (new : LocatedEntry → AddressCredentials) (p : Position) :
    (t.withCredentials new).entryAt? p = (t.entryAt? p).map (·.withCredentials new p) := by
  simp only [Transaction.entryAt?, Transaction.withCredentials, List.getElem?_mapIdx]
  cases t.operations[p.operation]? with
  | none => rfl
  | some o => simp only [Option.map_some, Option.bind_some, auth_withCredentials, List.getElem?_mapIdx]

theorem operations_rearranged (suits : a.Suits t) (i : Nat) :
    (t.rearranged a).operations[i]? =
      (t.operations[a.operation i]?).map (·.rearranged (a.entry (a.operation i))) := by
  have within : Within a.operation (t.operations.mapIdx fun i o => o.rearranged (a.entry i)).length := by
    rw [List.length_mapIdx]
    exact suits.operations
  rw [Transaction.rearranged, getElem?_rearrange within, List.getElem?_mapIdx]

/-- At each position of the new order stands the entry that stood at the position before. -/
theorem entryAt_rearranged (suits : a.Suits t) (p : Position) :
    (t.rearranged a).entryAt? p = t.entryAt? (a.before p) := by
  rw [Transaction.entryAt?, operations_rearranged suits, Transaction.entryAt?]
  change _ = (t.operations[a.operation p.operation]?).bind _
  cases there : t.operations[a.operation p.operation]? with
  | none => rfl
  | some o =>
    have within := suits.entries _ o there
    simp only [Option.map_some, Option.bind_some, auth_rearranged, getElem?_rearrange within]
    rfl

/-- A located entry at the position where it stood before. -/
def LocatedEntry.movedBack (a : Arrangement) (x : LocatedEntry) : LocatedEntry :=
  { x with position := a.before x.position }

theorem movedBack_injective (a : Arrangement) : Function.Injective (LocatedEntry.movedBack a) := by
  intro x y same
  obtain ⟨p, entry, credentials⟩ := x
  obtain ⟨q, entry', credentials'⟩ := y
  obtain ⟨positions, entries⟩ := LocatedEntry.mk.inj same
  obtain rfl : p = q := a.before.injective positions
  obtain ⟨rfl, rfl⟩ := entries
  rfl

theorem mem_rearranged_iff (suits : a.Suits t) {x : LocatedEntry} :
    x ∈ (t.rearranged a).addressEntries ↔ x.movedBack a ∈ t.addressEntries := by
  rw [mem_addressEntries_iff_entryAt, mem_addressEntries_iff_entryAt, entryAt_rearranged suits]
  rfl

/-- The address entries of a transaction in another order are those of the transaction, each from
the position where it stood before. -/
theorem addressEntries_rearranged (suits : a.Suits t) :
    ((t.rearranged a).addressEntries.map (LocatedEntry.movedBack a)).Perm t.addressEntries := by
  have distinct (t : Transaction) : t.addressEntries.Nodup :=
    List.Nodup.of_map _ (address_positions_distinct t)
  apply (List.perm_ext_iff_of_nodup ?_ (distinct t)).mpr
  · intro x
    constructor
    · intro member
      obtain ⟨y, there, rfl⟩ := List.mem_map.mp member
      exact (mem_rearranged_iff suits).mp there
    · intro member
      have back : LocatedEntry.movedBack a { x with position := a.before.symm x.position } = x := by
        rw [LocatedEntry.movedBack, Equiv.apply_symm_apply]
      refine List.mem_map.mpr ⟨_, (mem_rearranged_iff suits).mpr ?_, back⟩
      rwa [back]
  · exact (distinct _).map (movedBack_injective a)

/-! ## Updates in another order -/

/-- New credentials that do not depend on where an entry stands. -/
def Placeless (new : LocatedEntry → AddressCredentials) : Prop :=
  ∀ x p, new { x with position := p } = new x

theorem entry_placeless (placeless : Placeless new) (e : AuthorizationEntry) (p q : Position) :
    e.withCredentials new p = e.withCredentials new q := by
  cases owner : e.credentials with
  | sourceAccount => rw [entry_of_source owner, entry_of_source owner]
  | address c =>
    have same : new ⟨p, e, c⟩ = new ⟨q, e, c⟩ := placeless ⟨q, e, c⟩ p
    rw [entry_of_address owner, entry_of_address owner, same]

theorem operation_rearranged_updated (placeless : Placeless new) {order : Equiv.Perm Nat} {o : Operation}
    (within : Within order o.auth.length) (i j : Nat) :
    (o.rearranged order).withCredentials new i = (o.withCredentials new j).rearranged order := by
  cases o with
  | mk sourceAccount body =>
    cases body with
    | invokeHostFunction invoke =>
      have within : Within order invoke.auth.length := within
      have within' : Within order
          (invoke.auth.mapIdx fun entry e => e.withCredentials new ⟨j, entry⟩).length := by
        rwa [List.length_mapIdx]
      have same : ((rearrange order invoke.auth).mapIdx fun entry e => e.withCredentials new ⟨i, entry⟩) =
          rearrange order (invoke.auth.mapIdx fun entry e => e.withCredentials new ⟨j, entry⟩) := by
        apply List.ext_getElem?
        intro entry
        rw [List.getElem?_mapIdx, getElem?_rearrange within, getElem?_rearrange within', List.getElem?_mapIdx]
        exact congrArg (Option.map · _) (funext fun e => entry_placeless placeless e _ _)
      simp only [Operation.rearranged, Operation.withCredentials, same]
    | _ => rfl

/-- The order of a transaction is one of it after an update too. -/
theorem suits_of_update (suits : a.Suits t) : a.Suits (t.withCredentials new) := by
  constructor
  · simpa only [Transaction.withCredentials, List.length_mapIdx] using suits.operations
  · intro i o there
    simp only [Transaction.withCredentials, List.getElem?_mapIdx] at there
    obtain ⟨before, found, rfl⟩ := Option.map_eq_some_iff.mp there
    rw [auth_withCredentials, List.length_mapIdx]
    exact suits.entries i before found

/-- Updating and rearranging may be done in either order. -/
theorem rearranged_updated (placeless : Placeless new) (suits : a.Suits t) :
    (t.rearranged a).withCredentials new = (t.withCredentials new).rearranged a := by
  have same : ((t.rearranged a).withCredentials new).operations =
      ((t.withCredentials new).rearranged a).operations := by
    apply List.ext_getElem?
    intro i
    rw [operations_rearranged (suits_of_update suits)]
    simp only [Transaction.withCredentials, List.getElem?_mapIdx, operations_rearranged suits]
    cases there : t.operations[a.operation i]? with
    | none => rfl
    | some o =>
      have within := suits.entries _ o there
      exact congrArg some (operation_rearranged_updated placeless within _ _)
  simp only [Transaction.withCredentials, Transaction.rearranged] at same ⊢
  rw [same]

/-- Another order keeps the lengths of all lists that editing puts back. -/
theorem bounded_rearranged (bounded : t.Bounded) (suits : a.Suits t) : (t.rearranged a).Bounded := by
  constructor
  · simpa only [Transaction.rearranged, length_rearrange, List.length_mapIdx] using bounded.operations
  · intro o member
    obtain ⟨i, there⟩ := List.getElem?_of_mem member
    rw [operations_rearranged suits] at there
    obtain ⟨before, found, rfl⟩ := Option.map_eq_some_iff.mp there
    rw [auth_rearranged, length_rearrange]
    exact bounded.entries before (List.mem_of_getElem? found)

end AuthSigner
