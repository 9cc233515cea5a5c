import AuthSigner.Proofs.CredentialUpdate
import AuthSigner.Proofs.EnvelopeFormats

/-! New credentials within the bounds of the format. An envelope that fits has its
lists within their bounds and credentials that fit; and it still fits when credentials
that fit are put in their place. -/
namespace AuthSigner
open Xdr

theorem fits_address {c : AddressCredentials} :
    Credentials.codec.Fits (.address c) ↔ AddressCredentials.codec.Fits c := by
  simp only [Credentials.codec, Codec.union_fits_cons, Codec.union_fits_nil, Arm.of, Arm.void]
  simp

theorem fits_invoke {invoke : InvokeHostFunction} :
    OperationBody.codec.Fits (.invokeHostFunction invoke) ↔ InvokeHostFunction.codec.Fits invoke := by
  simp only [OperationBody.codec, Codec.union_fits_cons, Codec.union_fits_nil, Arm.of, Arm.void]
  simp

theorem fits_v1 {signed : SignedTransaction} :
    Envelope.codec.Fits (.v1 signed) ↔ SignedTransaction.codec.Fits signed := by
  simp only [Envelope.codec, Codec.union_fits_cons, Codec.union_fits_nil, Arm.of]
  simp

theorem fits_auth {o : Operation} (fits : Operation.codec.Fits o) :
    o.auth.length ≤ unbounded ∧ ∀ e ∈ o.auth, AuthorizationEntry.codec.Fits e := by
  cases o with
  | mk sourceAccount body =>
    obtain ⟨_, fits⟩ := fits
    cases body with
    | invokeHostFunction invoke => exact (fits_invoke.mp fits).2
    | _ => exact ⟨Nat.zero_le _, fun _ none => nomatch none⟩

theorem fits_operations {t : Transaction} (fits : Transaction.codec.Fits t) :
    t.operations.length ≤ Transaction.operationLimit ∧ ∀ o ∈ t.operations, Operation.codec.Fits o := by
  obtain ⟨_, _, _, _, _, operations, _⟩ := fits
  exact operations

/-- A transaction that fits is within the bounds that editing checks. -/
theorem bounded_of_fits {t : Transaction} (fits : Transaction.codec.Fits t) : t.Bounded :=
  ⟨(fits_operations fits).1, fun o member => (fits_auth ((fits_operations fits).2 o member)).1⟩

theorem located_fits {t : Transaction} {x : LocatedEntry} (fits : Transaction.codec.Fits t)
    (member : x ∈ t.addressEntries) : AddressCredentials.codec.Fits x.credentials := by
  obtain ⟨o, there, found, faithful⟩ := mem_addressEntries_iff.mp member
  have operation := (fits_operations fits).2 o (List.mem_of_getElem? there)
  have entry := (fits_auth operation).2 x.entry (List.mem_of_getElem? found)
  exact fits_address.mp (faithful ▸ entry.1)

/-! ## Updates -/

variable {new : LocatedEntry → AddressCredentials}

private theorem fits_list_of_mapIdx {α : Type} {c : Codec α} {max : Nat} {xs : List α} {f : Nat → α → α}
    (bound : xs.length ≤ max) (each : ∀ i x, xs[i]? = some x → c.Fits (f i x)) :
    (Codec.list max c).Fits (xs.mapIdx f) := by
  refine ⟨by rw [List.length_mapIdx]; exact bound, ?_⟩
  intro y member
  obtain ⟨i, inside, rfl⟩ := List.mem_mapIdx.mp member
  exact each i xs[i] (List.getElem?_eq_getElem inside)

theorem entry_fits {e : AuthorizationEntry} {p : Position} (fits : AuthorizationEntry.codec.Fits e)
    (keeps : ∀ c, e.credentials = .address c → AddressCredentials.codec.Fits (new ⟨p, e, c⟩)) :
    AuthorizationEntry.codec.Fits (e.withCredentials new p) := by
  cases owner : e.credentials with
  | sourceAccount =>
    rw [entry_of_source owner]
    exact fits
  | address c =>
    rw [entry_of_address owner]
    exact ⟨fits_address.mpr (keeps c owner), fits.2⟩

theorem operation_fits {o : Operation} {index : Nat} (fits : Operation.codec.Fits o)
    (keeps : ∀ entry e c, o.auth[entry]? = some e → e.credentials = .address c →
      AddressCredentials.codec.Fits (new ⟨⟨index, entry⟩, e, c⟩)) :
    Operation.codec.Fits (o.withCredentials new index) := by
  obtain ⟨bound, each⟩ := fits_auth fits
  cases o with
  | mk sourceAccount body =>
    cases body with
    | invokeHostFunction invoke =>
      obtain ⟨source, inner⟩ := fits
      refine ⟨source, fits_invoke.mpr ⟨(fits_invoke.mp inner).1, fits_list_of_mapIdx bound ?_⟩⟩
      intro entry e found
      exact entry_fits (each e (List.mem_of_getElem? found)) fun c owner => keeps entry e c found owner
    | _ => exact fits

/-- Credentials that fit, put in at the positions of the walk, leave a transaction that fits. -/
theorem transaction_fits {t : Transaction} (fits : Transaction.codec.Fits t)
    (keeps : ∀ x ∈ t.addressEntries, AddressCredentials.codec.Fits (new x)) :
    Transaction.codec.Fits (t.withCredentials new) := by
  have each := (fits_operations fits).2
  obtain ⟨source, fee, sequence, conditions, memo, ⟨few, _⟩, data⟩ := fits
  refine ⟨source, fee, sequence, conditions, memo, fits_list_of_mapIdx few ?_, data⟩
  intro index o there
  refine operation_fits (each o (List.mem_of_getElem? there)) ?_
  intro entry e c found owner
  exact keeps _ (mem_addressEntries_iff.mpr ⟨o, there, found, owner⟩)

theorem envelope_fits {signed : SignedTransaction} (fits : Envelope.codec.Fits (.v1 signed))
    (keeps : ∀ x ∈ signed.transaction.addressEntries, AddressCredentials.codec.Fits (new x)) :
    Envelope.codec.Fits (.v1 (signed.withCredentials new)) := by
  obtain ⟨transaction, signatures⟩ := fits_v1.mp fits
  exact fits_v1.mpr ⟨transaction_fits transaction keeps, signatures⟩

end AuthSigner
