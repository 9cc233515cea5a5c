import AuthSigner.Ledger.Transaction
import AuthSigner.Proofs.CanonicalValues

/-! The formats of credentials, operations, transactions and envelopes are canonical, and
which booleans those hold. -/
namespace AuthSigner
open Xdr

/-! ## Credentials and ledger keys -/

/-- The booleans in the signature of credentials. -/
def AddressCredentials.booleans (c : AddressCredentials) : List Bool := c.signature.booleans

def Credentials.booleans : Credentials → List Bool
  | .sourceAccount => []
  | .address credentials => credentials.booleans

def AuthorizationEntry.booleans (e : AuthorizationEntry) : List Bool :=
  e.credentials.booleans ++ e.rootInvocation.booleans

/-- The booleans in the key of contract data. -/
def LedgerKey.booleans : LedgerKey → List Bool
  | .contractData _ key _ => key.booleans
  | _ => []

theorem AddressCredentials.canonical : AddressCredentials.codec.Canonical booleans :=
  (Address.canonical.pair (.pair .i64 (.pair .u32 Value.canonical))).imap (fun _ => rfl) fun _ => rfl

theorem Credentials.canonical : Credentials.codec.Canonical booleans := by
  refine .union ?_ (by rintro ⟨⟩ <;> exact Nat.le_refl 1)
  simp only [List.forall_mem_cons]
  refine ⟨.void ?_, .of AddressCredentials.canonical ?_, List.forall_mem_nil _⟩
  all_goals exact ⟨by intros; rfl, by intros; rfl⟩

theorem AuthorizationEntry.canonical : AuthorizationEntry.codec.Canonical booleans :=
  (Credentials.canonical.pair Invocation.canonical).imap (fun _ => rfl) fun _ => rfl

theorem LedgerKey.canonical : LedgerKey.codec.Canonical booleans := by
  refine .union ?_ (by rintro ⟨⟩ <;> exact Nat.le_refl 1)
  simp only [List.forall_mem_cons]
  refine ⟨.of AccountId.canonical ?_, .of (AccountId.canonical.pair TrustLineAsset.canonical) ?_,
    .of (AccountId.canonical.pair .i64) ?_, .of (AccountId.canonical.pair .bytes) ?_,
    .of ClaimableBalanceId.canonical ?_, .of Hash.canonical ?_,
    .of (Address.canonical.pair (Value.canonical.pair Durability.canonical)) ?stored,
    .of Hash.canonical ?_, .of ConfigSetting.canonical ?_, .of Hash.canonical ?_, List.forall_mem_nil _⟩
  case stored => exact ⟨fun _ => rfl, fun (_, key, _) => (List.append_nil key.booleans).symm⟩
  all_goals exact ⟨by intros; rfl, by intros; rfl⟩

/-! ## Operations -/

theorem Claimant.canonical : Claimant.codec.Canonical fun _ => [] :=
  (Codec.Canonical.only (AccountId.canonical.pair ClaimPredicate.canonical)).imap
    (fun _ => rfl) fun _ => rfl

theorem CreateAccount.canonical : CreateAccount.codec.Canonical fun _ => [] :=
  (AccountId.canonical.pair .i64).imap (fun _ => rfl) fun _ => rfl

theorem Payment.canonical : Payment.codec.Canonical fun _ => [] :=
  (MuxedAccount.canonical.pair (Asset.canonical.pair .i64)).imap (fun _ => rfl) fun _ => rfl

theorem PathPayment.canonical : PathPayment.codec.Canonical fun _ => [] :=
  (Asset.canonical.pair (.pair .i64 (MuxedAccount.canonical.pair (Asset.canonical.pair
    (.pair .i64 Asset.canonical.plain_list))))).imap (fun _ => rfl) fun _ => rfl

theorem ManagedOffer.canonical : ManagedOffer.codec.Canonical fun _ => [] :=
  (Asset.canonical.pair (Asset.canonical.pair (.pair .i64 (Price.canonical.pair .i64)))).imap
    (fun _ => rfl) fun _ => rfl

theorem PassiveOffer.canonical : PassiveOffer.codec.Canonical fun _ => [] :=
  (Asset.canonical.pair (Asset.canonical.pair (.pair .i64 Price.canonical))).imap
    (fun _ => rfl) fun _ => rfl

theorem SetOptions.canonical : SetOptions.codec.Canonical fun _ => [] :=
  (AccountId.canonical.plain_option.pair (.pair (.plain_option .u32) (.pair (.plain_option .u32)
    (.pair (.plain_option .u32) (.pair (.plain_option .u32) (.pair (.plain_option .u32)
    (.pair (.plain_option .u32) (.pair (.plain_option .bytes)
    WeightedSigner.canonical.plain_option)))))))).imap (fun _ => rfl) fun _ => rfl

theorem ChangeTrust.canonical : ChangeTrust.codec.Canonical fun _ => [] :=
  (ChangeTrustAsset.canonical.pair .i64).imap (fun _ => rfl) fun _ => rfl

theorem AllowTrust.canonical : AllowTrust.codec.Canonical fun _ => [] :=
  (AccountId.canonical.pair (AssetCode.canonical.pair .u32)).imap (fun _ => rfl) fun _ => rfl

theorem ManageData.canonical : ManageData.codec.Canonical fun _ => [] :=
  (Codec.Canonical.pair .bytes (.plain_option .bytes)).imap (fun _ => rfl) fun _ => rfl

theorem CreateClaimableBalance.canonical : CreateClaimableBalance.codec.Canonical fun _ => [] :=
  (Asset.canonical.pair (.pair .i64 Claimant.canonical.plain_list)).imap (fun _ => rfl) fun _ => rfl

/-- The booleans in the ledger key whose sponsorship is revoked. -/
def RevokeSponsorship.booleans : RevokeSponsorship → List Bool
  | .ledgerEntry key => key.booleans
  | .signer _ _ => []

theorem RevokeSponsorship.canonical : RevokeSponsorship.codec.Canonical booleans := by
  refine .union ?_ (by rintro ⟨⟩ <;> exact Nat.le_refl 1)
  simp only [List.forall_mem_cons]
  refine ⟨.of LedgerKey.canonical ?_, .of (AccountId.canonical.pair SignerKey.canonical) ?_,
    List.forall_mem_nil _⟩
  all_goals exact ⟨by intros; rfl, by intros; rfl⟩

theorem Clawback.canonical : Clawback.codec.Canonical fun _ => [] :=
  (Asset.canonical.pair (MuxedAccount.canonical.pair .i64)).imap (fun _ => rfl) fun _ => rfl

theorem SetTrustLineFlags.canonical : SetTrustLineFlags.codec.Canonical fun _ => [] :=
  (AccountId.canonical.pair (Asset.canonical.pair (.pair .u32 .u32))).imap (fun _ => rfl) fun _ => rfl

theorem PoolDeposit.canonical : PoolDeposit.codec.Canonical fun _ => [] :=
  (Hash.canonical.pair (.pair .i64 (.pair .i64 (Price.canonical.pair Price.canonical)))).imap
    (fun _ => rfl) fun _ => rfl

theorem PoolWithdrawal.canonical : PoolWithdrawal.codec.Canonical fun _ => [] :=
  (Hash.canonical.pair (.pair .i64 (.pair .i64 .i64))).imap (fun _ => rfl) fun _ => rfl

/-- The booleans in a host function and in the entries that authorize it. -/
def InvokeHostFunction.booleans (o : InvokeHostFunction) : List Bool :=
  o.function.booleans ++ o.auth.flatMap AuthorizationEntry.booleans

theorem InvokeHostFunction.canonical : InvokeHostFunction.codec.Canonical booleans :=
  (HostFunction.canonical.pair AuthorizationEntry.canonical.list).imap (fun _ => rfl) fun _ => rfl

theorem extensionPoint_canonical : extensionPoint.Canonical fun _ => [] := .only .unit

def OperationBody.booleans : OperationBody → List Bool
  | .revokeSponsorship op => op.booleans
  | .invokeHostFunction op => op.booleans
  | _ => []

theorem OperationBody.canonical : OperationBody.codec.Canonical booleans := by
  refine .union ?_ (by rintro ⟨⟩ <;> exact Nat.le_refl 1)
  simp only [List.forall_mem_cons]
  refine ⟨.of CreateAccount.canonical ?_, .of Payment.canonical ?_, .of PathPayment.canonical ?_,
    .of ManagedOffer.canonical ?_, .of PassiveOffer.canonical ?_, .of SetOptions.canonical ?_,
    .of ChangeTrust.canonical ?_, .of AllowTrust.canonical ?_, .of MuxedAccount.canonical ?_, .void ?_,
    .of ManageData.canonical ?_, .of .i64 ?_, .of ManagedOffer.canonical ?_,
    .of PathPayment.canonical ?_, .of CreateClaimableBalance.canonical ?_,
    .of ClaimableBalanceId.canonical ?_, .of AccountId.canonical ?_, .void ?_,
    .of RevokeSponsorship.canonical ?_, .of Clawback.canonical ?_, .of ClaimableBalanceId.canonical ?_,
    .of SetTrustLineFlags.canonical ?_, .of PoolDeposit.canonical ?_, .of PoolWithdrawal.canonical ?_,
    .of InvokeHostFunction.canonical ?_, .of (extensionPoint_canonical.pair .u32) ?_,
    .of extensionPoint_canonical ?_, List.forall_mem_nil _⟩
  all_goals exact ⟨by intros; rfl, by intros; rfl⟩

def Operation.booleans (o : Operation) : List Bool := o.body.booleans

theorem Operation.canonical : Operation.codec.Canonical booleans :=
  (MuxedAccount.canonical.plain_option.pair OperationBody.canonical).imap (fun _ => rfl) fun _ => rfl

/-! ## Transactions and envelopes -/

theorem TimeBounds.canonical : TimeBounds.codec.Canonical fun _ => [] :=
  (Codec.Canonical.u64.pair .u64).imap (fun _ => rfl) fun _ => rfl

theorem Memo.canonical : Memo.codec.Canonical fun _ => [] := by
  refine .union ?_ (by rintro ⟨⟩ <;> exact Nat.le_refl 1)
  simp only [List.forall_mem_cons]
  refine ⟨.void ?_, .of .bytes ?_, .of .u64 ?_, .of Hash.canonical ?_, .of Hash.canonical ?_,
    List.forall_mem_nil _⟩
  all_goals exact ⟨by intros; rfl, by intros; rfl⟩

theorem LedgerBounds.canonical : LedgerBounds.codec.Canonical fun _ => [] :=
  (Codec.Canonical.u32.pair .u32).imap (fun _ => rfl) fun _ => rfl

theorem GeneralPreconditions.canonical : GeneralPreconditions.codec.Canonical fun _ => [] :=
  (TimeBounds.canonical.plain_option.pair (LedgerBounds.canonical.plain_option.pair
    (.pair (.plain_option .i64) (.pair .u64 (.pair .u32 SignerKey.canonical.plain_list))))).imap
    (fun _ => rfl) fun _ => rfl

theorem Preconditions.canonical : Preconditions.codec.Canonical fun _ => [] := by
  refine .union ?_ (by rintro ⟨⟩ <;> exact Nat.le_refl 1)
  simp only [List.forall_mem_cons]
  refine ⟨.void ?_, .of TimeBounds.canonical ?_, .of GeneralPreconditions.canonical ?_,
    List.forall_mem_nil _⟩
  all_goals exact ⟨by intros; rfl, by intros; rfl⟩

/-- The booleans in the ledger keys of a footprint. -/
def Footprint.booleans (f : Footprint) : List Bool :=
  f.readOnly.flatMap LedgerKey.booleans ++ f.readWrite.flatMap LedgerKey.booleans

theorem Footprint.canonical : Footprint.codec.Canonical booleans :=
  (LedgerKey.canonical.list.pair LedgerKey.canonical.list).imap (fun _ => rfl) fun _ => rfl

theorem Resources.canonical : Resources.codec.Canonical fun r => r.footprint.booleans :=
  (Footprint.canonical.pair (.pair .u32 (.pair .u32 .u32))).imap (fun _ => rfl)
    fun _ => (List.append_nil _).symm

def ResourceData.booleans (d : ResourceData) : List Bool := d.resources.footprint.booleans

theorem ResourceData.canonical : ResourceData.codec.Canonical booleans :=
  (Codec.Canonical.pair (.plain_option (.plain_list .u32)) (Resources.canonical.pair .i64)).imap
    (fun _ => rfl) fun _ => (List.append_nil _).symm

def Transaction.booleans (t : Transaction) : List Bool :=
  t.operations.flatMap Operation.booleans ++ t.resourceData.elim [] ResourceData.booleans

theorem Transaction.canonical : Transaction.codec.Canonical booleans :=
  (MuxedAccount.canonical.pair (.pair .u32 (.pair .i64 (Preconditions.canonical.pair (Memo.canonical.pair
    (Operation.canonical.list.pair ResourceData.canonical.option)))))).imap (fun _ => rfl) fun _ => rfl

theorem DecoratedSignature.canonical : DecoratedSignature.codec.Canonical fun _ => [] :=
  (Codec.Canonical.octets.pair .bytes).imap (fun _ => rfl) fun _ => rfl

theorem SignedTransaction.canonical : SignedTransaction.codec.Canonical fun s => s.transaction.booleans :=
  (Transaction.canonical.pair DecoratedSignature.canonical.plain_list).imap (fun _ => rfl)
    fun _ => (List.append_nil _).symm

theorem TransactionV0.canonical :
    TransactionV0.codec.Canonical fun t => t.operations.flatMap Operation.booleans :=
  (Codec.Canonical.octets.pair (.pair .u32 (.pair .i64 (TimeBounds.canonical.plain_option.pair
    (Memo.canonical.pair (Operation.canonical.list.pair extensionPoint_canonical)))))).imap
    (fun _ => rfl) fun _ => (List.append_nil _).symm

theorem SignedTransactionV0.canonical :
    SignedTransactionV0.codec.Canonical fun s => s.transaction.operations.flatMap Operation.booleans :=
  (TransactionV0.canonical.pair DecoratedSignature.canonical.plain_list).imap (fun _ => rfl)
    fun _ => (List.append_nil _).symm

theorem FeeBump.canonical : FeeBump.codec.Canonical fun b => b.inner.transaction.booleans :=
  (MuxedAccount.canonical.pair (.pair .i64 (SignedTransaction.canonical.only.pair
    (extensionPoint_canonical.pair DecoratedSignature.canonical.plain_list)))).imap
    (fun _ => rfl) fun _ => (List.append_nil _).symm

/-- The booleans that an envelope holds, in the order in which they are written. -/
def Envelope.booleans : Envelope → List Bool
  | .v0 signed => signed.transaction.operations.flatMap Operation.booleans
  | .v1 signed => signed.transaction.booleans
  | .feeBump bump => bump.inner.transaction.booleans

theorem Envelope.canonical : Envelope.codec.Canonical booleans := by
  refine .union ?_ (by rintro ⟨⟩ <;> exact Nat.le_refl 1)
  simp only [List.forall_mem_cons]
  refine ⟨.of SignedTransactionV0.canonical ?_, .of SignedTransaction.canonical ?_,
    .of FeeBump.canonical ?_, List.forall_mem_nil _⟩
  all_goals exact ⟨by intros; rfl, by intros; rfl⟩

end AuthSigner
