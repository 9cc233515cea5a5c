import AuthSigner.Ledger.Transaction
import AuthSigner.Proofs.NestedFormats

/-! The laws of the formats of operations, transactions and envelopes. -/
namespace AuthSigner
open Xdr

variable {depth bound : Nat}

theorem Claimant.lawful : Claimant.codec.Lawful depth (4 * depth) :=
  (Codec.Lawful.only (AccountId.lawful.pair ClaimPredicate.lawful)).imap (fun _ => rfl) fun _ => rfl

theorem LedgerKey.lawful : LedgerKey.codec.Lawful depth (4 * depth) := by
  refine .union ?_ (by decide) (by rintro ⟨⟩ <;> exact Nat.le_refl 1)
  simp only [List.forall_mem_cons]
  refine ⟨.of AccountId.lawful ?_, .of (AccountId.lawful.pair TrustLineAsset.lawful) ?_,
    .of (AccountId.lawful.pair .i64) ?_, .of (AccountId.lawful.pair .bytes) ?_,
    .of ClaimableBalanceId.lawful ?_, .of Hash.lawful ?_,
    .of (Address.lawful.pair (Value.lawful.pair Durability.lawful)) ?_, .of Hash.lawful ?_,
    .of ConfigSetting.lawful ?_, .of Hash.lawful ?_, List.forall_mem_nil _⟩
  all_goals exact ⟨by intros; rfl, by rintro ⟨⟩ ⟨⟩; rfl⟩

theorem AddressCredentials.lawful : AddressCredentials.codec.Lawful depth (4 * depth) :=
  (Address.lawful.pair (.pair .i64 (.pair .u32 Value.lawful))).imap (fun _ => rfl) fun _ => rfl

theorem Credentials.lawful : Credentials.codec.Lawful depth (4 * depth) := by
  refine .union ?_ (by decide) (by rintro ⟨⟩ <;> exact Nat.le_refl 1)
  simp only [List.forall_mem_cons]
  refine ⟨.void ?_, .of AddressCredentials.lawful ?_, List.forall_mem_nil _⟩
  all_goals exact ⟨by intros; rfl, by rintro ⟨⟩ ⟨⟩; rfl⟩

theorem AuthorizationEntry.lawful : AuthorizationEntry.codec.Lawful depth (4 * depth) :=
  (Credentials.lawful.pair Invocation.lawful).imap (fun _ => rfl) fun _ => rfl

/-! ## Operations -/

theorem CreateAccount.lawful : CreateAccount.codec.Lawful depth bound :=
  (AccountId.lawful.pair .i64).imap (fun _ => rfl) fun _ => rfl

theorem Payment.lawful : Payment.codec.Lawful depth bound :=
  (MuxedAccount.lawful.pair (Asset.lawful.pair .i64)).imap (fun _ => rfl) fun _ => rfl

theorem PathPayment.lawful : PathPayment.codec.Lawful depth bound :=
  (Asset.lawful.pair (.pair .i64 (MuxedAccount.lawful.pair (Asset.lawful.pair
    (.pair .i64 Asset.lawful.list))))).imap (fun _ => rfl) fun _ => rfl

theorem ManagedOffer.lawful : ManagedOffer.codec.Lawful depth bound :=
  (Asset.lawful.pair (Asset.lawful.pair (.pair .i64 (Price.lawful.pair .i64)))).imap
    (fun _ => rfl) fun _ => rfl

theorem PassiveOffer.lawful : PassiveOffer.codec.Lawful depth bound :=
  (Asset.lawful.pair (Asset.lawful.pair (.pair .i64 Price.lawful))).imap (fun _ => rfl) fun _ => rfl

theorem SetOptions.lawful : SetOptions.codec.Lawful depth bound :=
  (AccountId.lawful.option.pair (.pair (.option .u32) (.pair (.option .u32) (.pair (.option .u32)
    (.pair (.option .u32) (.pair (.option .u32) (.pair (.option .u32) (.pair (.option .bytes)
    WeightedSigner.lawful.option)))))))).imap (fun _ => rfl) fun _ => rfl

theorem ChangeTrust.lawful : ChangeTrust.codec.Lawful depth bound :=
  (ChangeTrustAsset.lawful.pair .i64).imap (fun _ => rfl) fun _ => rfl

theorem AllowTrust.lawful : AllowTrust.codec.Lawful depth bound :=
  (AccountId.lawful.pair (AssetCode.lawful.pair .u32)).imap (fun _ => rfl) fun _ => rfl

theorem ManageData.lawful : ManageData.codec.Lawful depth bound :=
  (Codec.Lawful.pair .bytes (.option .bytes)).imap (fun _ => rfl) fun _ => rfl

theorem CreateClaimableBalance.lawful : CreateClaimableBalance.codec.Lawful depth (4 * depth) :=
  (Asset.lawful.pair (.pair .i64 Claimant.lawful.list)).imap (fun _ => rfl) fun _ => rfl

theorem RevokeSponsorship.lawful : RevokeSponsorship.codec.Lawful depth (4 * depth) := by
  refine .union ?_ (by decide) (by rintro ⟨⟩ <;> exact Nat.le_refl 1)
  simp only [List.forall_mem_cons]
  refine ⟨.of LedgerKey.lawful ?_, .of (AccountId.lawful.pair SignerKey.lawful) ?_,
    List.forall_mem_nil _⟩
  all_goals exact ⟨by intros; rfl, by rintro ⟨⟩ ⟨⟩; rfl⟩

theorem Clawback.lawful : Clawback.codec.Lawful depth bound :=
  (Asset.lawful.pair (MuxedAccount.lawful.pair .i64)).imap (fun _ => rfl) fun _ => rfl

theorem SetTrustLineFlags.lawful : SetTrustLineFlags.codec.Lawful depth bound :=
  (AccountId.lawful.pair (Asset.lawful.pair (.pair .u32 .u32))).imap (fun _ => rfl) fun _ => rfl

theorem PoolDeposit.lawful : PoolDeposit.codec.Lawful depth bound :=
  (Hash.lawful.pair (.pair .i64 (.pair .i64 (Price.lawful.pair Price.lawful)))).imap
    (fun _ => rfl) fun _ => rfl

theorem PoolWithdrawal.lawful : PoolWithdrawal.codec.Lawful depth bound :=
  (Hash.lawful.pair (.pair .i64 (.pair .i64 .i64))).imap (fun _ => rfl) fun _ => rfl

theorem InvokeHostFunction.lawful : InvokeHostFunction.codec.Lawful depth (4 * depth) :=
  (HostFunction.lawful.pair AuthorizationEntry.lawful.list).imap (fun _ => rfl) fun _ => rfl

theorem extensionPoint_lawful : extensionPoint.Lawful depth bound := .only .unit

theorem OperationBody.lawful : OperationBody.codec.Lawful depth (4 * depth) := by
  refine .union ?_ (by decide) (by rintro ⟨⟩ <;> exact Nat.le_refl 1)
  simp only [List.forall_mem_cons]
  refine ⟨.of CreateAccount.lawful ?_, .of Payment.lawful ?_, .of PathPayment.lawful ?_,
    .of ManagedOffer.lawful ?_, .of PassiveOffer.lawful ?_, .of SetOptions.lawful ?_,
    .of ChangeTrust.lawful ?_, .of AllowTrust.lawful ?_, .of MuxedAccount.lawful ?_, .void ?_,
    .of ManageData.lawful ?_, .of .i64 ?_, .of ManagedOffer.lawful ?_, .of PathPayment.lawful ?_,
    .of CreateClaimableBalance.lawful ?_, .of ClaimableBalanceId.lawful ?_, .of AccountId.lawful ?_,
    .void ?_, .of RevokeSponsorship.lawful ?_, .of Clawback.lawful ?_, .of ClaimableBalanceId.lawful ?_,
    .of SetTrustLineFlags.lawful ?_, .of PoolDeposit.lawful ?_, .of PoolWithdrawal.lawful ?_,
    .of InvokeHostFunction.lawful ?_, .of (extensionPoint_lawful.pair .u32) ?_,
    .of extensionPoint_lawful ?_, List.forall_mem_nil _⟩
  all_goals exact ⟨by intros; rfl, by rintro ⟨⟩ ⟨⟩; rfl⟩

theorem Operation.lawful : Operation.codec.Lawful depth (4 * depth) :=
  (MuxedAccount.lawful.option.pair OperationBody.lawful).imap (fun _ => rfl) fun _ => rfl

/-! ## Transactions and envelopes -/

theorem TimeBounds.lawful : TimeBounds.codec.Lawful depth bound :=
  (Codec.Lawful.u64.pair .u64).imap (fun _ => rfl) fun _ => rfl

theorem Memo.lawful : Memo.codec.Lawful depth bound := by
  refine .union ?_ (by decide) (by rintro ⟨⟩ <;> exact Nat.le_refl 1)
  simp only [List.forall_mem_cons]
  refine ⟨.void ?_, .of .bytes ?_, .of .u64 ?_, .of Hash.lawful ?_, .of Hash.lawful ?_,
    List.forall_mem_nil _⟩
  all_goals exact ⟨by intros; rfl, by rintro ⟨⟩ ⟨⟩; rfl⟩

theorem LedgerBounds.lawful : LedgerBounds.codec.Lawful depth bound :=
  (Codec.Lawful.u32.pair .u32).imap (fun _ => rfl) fun _ => rfl

theorem GeneralPreconditions.lawful : GeneralPreconditions.codec.Lawful depth bound :=
  (TimeBounds.lawful.option.pair (LedgerBounds.lawful.option.pair (.pair (.option .i64)
    (.pair .u64 (.pair .u32 SignerKey.lawful.list))))).imap (fun _ => rfl) fun _ => rfl

theorem Preconditions.lawful : Preconditions.codec.Lawful depth bound := by
  refine .union ?_ (by decide) (by rintro ⟨⟩ <;> exact Nat.le_refl 1)
  simp only [List.forall_mem_cons]
  refine ⟨.void ?_, .of TimeBounds.lawful ?_, .of GeneralPreconditions.lawful ?_, List.forall_mem_nil _⟩
  all_goals exact ⟨by intros; rfl, by rintro ⟨⟩ ⟨⟩; rfl⟩

theorem Footprint.lawful : Footprint.codec.Lawful depth (4 * depth) :=
  (LedgerKey.lawful.list.pair LedgerKey.lawful.list).imap (fun _ => rfl) fun _ => rfl

theorem Resources.lawful : Resources.codec.Lawful depth (4 * depth) :=
  (Footprint.lawful.pair (.pair .u32 (.pair .u32 .u32))).imap (fun _ => rfl) fun _ => rfl

theorem ResourceData.lawful : ResourceData.codec.Lawful depth (4 * depth) :=
  (Codec.Lawful.pair (.option (.list .u32)) (Resources.lawful.pair .i64)).imap
    (fun _ => rfl) fun _ => rfl

instance : Expressible Transaction.operationLimit := ⟨by decide⟩

theorem Transaction.lawful : Transaction.codec.Lawful depth (4 * depth) :=
  (MuxedAccount.lawful.pair (.pair .u32 (.pair .i64 (Preconditions.lawful.pair (Memo.lawful.pair
    (Operation.lawful.list.pair ResourceData.lawful.option)))))).imap (fun _ => rfl) fun _ => rfl

theorem DecoratedSignature.lawful : DecoratedSignature.codec.Lawful depth bound :=
  (Codec.Lawful.octets.pair .bytes).imap (fun _ => rfl) fun _ => rfl

theorem SignedTransaction.lawful : SignedTransaction.codec.Lawful depth (4 * depth) :=
  (Transaction.lawful.pair DecoratedSignature.lawful.list).imap (fun _ => rfl) fun _ => rfl

theorem TransactionV0.lawful : TransactionV0.codec.Lawful depth (4 * depth) :=
  (Codec.Lawful.octets.pair (.pair .u32 (.pair .i64 (TimeBounds.lawful.option.pair (Memo.lawful.pair
    (Operation.lawful.list.pair extensionPoint_lawful)))))).imap (fun _ => rfl) fun _ => rfl

theorem SignedTransactionV0.lawful : SignedTransactionV0.codec.Lawful depth (4 * depth) :=
  (TransactionV0.lawful.pair DecoratedSignature.lawful.list).imap (fun _ => rfl) fun _ => rfl

theorem FeeBump.lawful : FeeBump.codec.Lawful depth (4 * depth) :=
  (MuxedAccount.lawful.pair (.pair .i64 (SignedTransaction.lawful.only.pair
    (extensionPoint_lawful.pair DecoratedSignature.lawful.list)))).imap (fun _ => rfl) fun _ => rfl

theorem Envelope.lawful : Envelope.codec.Lawful depth (4 * depth) := by
  refine .union ?_ (by decide) (by rintro ⟨⟩ <;> exact Nat.le_refl 1)
  simp only [List.forall_mem_cons]
  refine ⟨.of SignedTransactionV0.lawful ?_, .of SignedTransaction.lawful ?_, .of FeeBump.lawful ?_,
    List.forall_mem_nil _⟩
  all_goals exact ⟨by intros; rfl, by rintro ⟨⟩ ⟨⟩; rfl⟩

end AuthSigner
