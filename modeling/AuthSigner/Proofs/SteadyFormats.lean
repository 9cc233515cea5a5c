import AuthSigner.Ledger.Transaction
import AuthSigner.Proofs.CodecLaws
import AuthSigner.Proofs.SteadyReaders

/-! Every format of an envelope is steady, so what was read of it stays when more input
follows. A format is opened here together with those that stand only in it; the rest is
found along its description. Values, conditions and invocations, which hold others of their
kind, are steady because their layers keep it. -/
namespace AuthSigner
open Xdr

variable {limit : Nat}

/-! ## Accounts, assets and addresses -/

instance Hash.steady : Hash.codec.Steady limit := by
  unfold Hash.codec
  infer_instance

instance AccountId.steady : AccountId.codec.Steady limit := by
  unfold AccountId.codec
  infer_instance

instance MuxedAccount.steady : MuxedAccount.codec.Steady limit := by
  unfold MuxedAccount.codec
  infer_instance

instance SignerKey.steady : SignerKey.codec.Steady limit := by
  unfold SignerKey.codec
  infer_instance

instance Asset.steady : Asset.codec.Steady limit := by
  unfold Asset.codec AlphaNum4.codec AlphaNum12.codec
  infer_instance

instance TrustLineAsset.steady : TrustLineAsset.codec.Steady limit := by
  unfold TrustLineAsset.codec AlphaNum4.codec AlphaNum12.codec
  infer_instance

instance ClaimableBalanceId.steady : ClaimableBalanceId.codec.Steady limit := by
  unfold ClaimableBalanceId.codec
  infer_instance

instance Address.steady : Address.codec.Steady limit := by
  unfold Address.codec
  infer_instance

/-! ## Contract values -/

instance Executable.steady : Executable.codec.Steady limit := by
  unfold Executable.codec
  infer_instance

instance Scalar.arms_steady : Arm.AllSteady Scalar.arms limit := by
  unfold Scalar.arms ContractError.codec ErrorCode.codec
  infer_instance

instance Value.layer_steady {inner : Codec Value} [inner.Steady limit] :
    (Value.layer inner).Steady limit := by
  unfold Value.layer Value.arms Value.scalarArms
  infer_instance

instance Value.steady : Value.codec.Steady limit :=
  .nested Value.layer rfl (fun _ => Codec.union_read_congr rfl) fun _ _ => inferInstance

/-! ## Conditions of claims -/

instance ClaimPredicate.layer_steady {inner : Codec ClaimPredicate} [inner.Steady limit] :
    (ClaimPredicate.layer inner).Steady limit := by
  unfold ClaimPredicate.layer ClaimPredicate.arms
  infer_instance

instance ClaimPredicate.steady : ClaimPredicate.codec.Steady limit :=
  .nested ClaimPredicate.layer rfl (fun _ => Codec.union_read_congr rfl) fun _ _ => inferInstance

/-! ## Invocations and entries -/

instance ContractCall.steady : ContractCall.codec.Steady limit := by
  unfold ContractCall.codec
  infer_instance

instance ContractIdPreimage.steady : ContractIdPreimage.codec.Steady limit := by
  unfold ContractIdPreimage.codec
  infer_instance

instance HostFunction.steady : HostFunction.codec.Steady limit := by
  unfold HostFunction.codec ContractCreation.codec ConstructedCreation.codec
  infer_instance

instance AuthorizedFunction.steady : AuthorizedFunction.codec.Steady limit := by
  unfold AuthorizedFunction.codec ContractCreation.codec ConstructedCreation.codec
  infer_instance

instance Invocation.layer_steady {inner : Codec Invocation} [inner.Steady limit] :
    (Invocation.layer inner).Steady limit := by
  unfold Invocation.layer
  infer_instance

instance Invocation.steady : Invocation.codec.Steady limit :=
  .nested Invocation.layer rfl (fun _ => rfl) fun _ _ => inferInstance

instance AuthorizationEntry.steady : AuthorizationEntry.codec.Steady limit := by
  unfold AuthorizationEntry.codec Credentials.codec AddressCredentials.codec
  infer_instance

/-! ## Operations -/

instance LedgerKey.steady : LedgerKey.codec.Steady limit := by
  unfold LedgerKey.codec Durability.codec ConfigSetting.codec
  infer_instance

instance extensionPoint_steady : extensionPoint.Steady limit := by
  unfold extensionPoint
  infer_instance

instance Price.steady : Price.codec.Steady limit := by
  unfold Price.codec
  infer_instance

instance CreateAccount.steady : CreateAccount.codec.Steady limit := by
  unfold CreateAccount.codec
  infer_instance

instance Payment.steady : Payment.codec.Steady limit := by
  unfold Payment.codec
  infer_instance

instance PathPayment.steady : PathPayment.codec.Steady limit := by
  unfold PathPayment.codec
  infer_instance

instance ManagedOffer.steady : ManagedOffer.codec.Steady limit := by
  unfold ManagedOffer.codec
  infer_instance

instance PassiveOffer.steady : PassiveOffer.codec.Steady limit := by
  unfold PassiveOffer.codec
  infer_instance

instance SetOptions.steady : SetOptions.codec.Steady limit := by
  unfold SetOptions.codec WeightedSigner.codec
  infer_instance

instance ChangeTrust.steady : ChangeTrust.codec.Steady limit := by
  unfold ChangeTrust.codec ChangeTrustAsset.codec AlphaNum4.codec AlphaNum12.codec ConstantProductPool.codec
  infer_instance

instance AllowTrust.steady : AllowTrust.codec.Steady limit := by
  unfold AllowTrust.codec AssetCode.codec
  infer_instance

instance ManageData.steady : ManageData.codec.Steady limit := by
  unfold ManageData.codec
  infer_instance

instance CreateClaimableBalance.steady : CreateClaimableBalance.codec.Steady limit := by
  unfold CreateClaimableBalance.codec Claimant.codec
  infer_instance

instance RevokeSponsorship.steady : RevokeSponsorship.codec.Steady limit := by
  unfold RevokeSponsorship.codec
  infer_instance

instance Clawback.steady : Clawback.codec.Steady limit := by
  unfold Clawback.codec
  infer_instance

instance SetTrustLineFlags.steady : SetTrustLineFlags.codec.Steady limit := by
  unfold SetTrustLineFlags.codec
  infer_instance

instance PoolDeposit.steady : PoolDeposit.codec.Steady limit := by
  unfold PoolDeposit.codec
  infer_instance

instance PoolWithdrawal.steady : PoolWithdrawal.codec.Steady limit := by
  unfold PoolWithdrawal.codec
  infer_instance

instance InvokeHostFunction.steady : InvokeHostFunction.codec.Steady limit := by
  unfold InvokeHostFunction.codec
  infer_instance

instance OperationBody.steady : OperationBody.codec.Steady limit := by
  unfold OperationBody.codec
  infer_instance

instance Operation.steady : Operation.codec.Steady limit := by
  unfold Operation.codec
  infer_instance

/-! ## Transactions and envelopes -/

instance TimeBounds.steady : TimeBounds.codec.Steady limit := by
  unfold TimeBounds.codec
  infer_instance

instance Memo.steady : Memo.codec.Steady limit := by
  unfold Memo.codec
  infer_instance

instance Preconditions.steady : Preconditions.codec.Steady limit := by
  unfold Preconditions.codec GeneralPreconditions.codec LedgerBounds.codec
  infer_instance

instance ResourceData.steady : ResourceData.codec.Steady limit := by
  unfold ResourceData.codec Resources.codec Footprint.codec
  infer_instance

instance DecoratedSignature.steady : DecoratedSignature.codec.Steady limit := by
  unfold DecoratedSignature.codec
  infer_instance

instance SignedTransaction.steady : SignedTransaction.codec.Steady limit := by
  unfold SignedTransaction.codec Transaction.codec
  infer_instance

instance Envelope.steady : Envelope.codec.Steady limit := by
  unfold Envelope.codec SignedTransactionV0.codec TransactionV0.codec FeeBump.codec
  infer_instance

end AuthSigner
