import AuthSigner.Ledger.Transaction
import AuthSigner.Proofs.NestedFormats

/-! The bounds of the schema, told on the values themselves. Lists and byte strings have a
greatest length, and nothing else about a value keeps it from being written. So what the
formats say of the values that fit them is no more than these bounds. -/
namespace AuthSigner
open Xdr

/-! ## Parts of formats -/

namespace Xdr

variable {α β : Type} {c : Codec α} {d : Codec β}

@[simp] theorem Codec.fits_unit (x : Unit) : Codec.unit.Fits x := trivial

@[simp] theorem Codec.fits_u32 (n : UInt32) : Codec.u32.Fits n := trivial

@[simp] theorem Codec.fits_u64 (n : UInt64) : Codec.u64.Fits n := trivial

@[simp] theorem Codec.fits_i32 (n : Int32) : Codec.i32.Fits n := trivial

@[simp] theorem Codec.fits_i64 (n : Int64) : Codec.i64.Fits n := trivial

@[simp] theorem Codec.fits_bool (b : Bool) : Codec.bool.Fits b := trivial

@[simp] theorem Codec.fits_octets {n : Nat} (x : Octets n) : (Codec.octets n).Fits x := trivial

@[simp] theorem Codec.fits_bytes {max : Nat} {x : Bytes} : (Codec.bytes max).Fits x ↔ x.length ≤ max := Iff.rfl

@[simp] theorem Codec.fits_imap {forth : α → β} {back : β → α} {b : β} :
    (c.imap forth back).Fits b ↔ c.Fits (back b) := Iff.rfl

@[simp] theorem Codec.fits_pair {a : α} {b : β} : (c.pair d).Fits (a, b) ↔ c.Fits a ∧ d.Fits b := Iff.rfl

@[simp] theorem Codec.fits_list {max : Nat} {xs : List α} :
    (Codec.list max c).Fits xs ↔ xs.length ≤ max ∧ ∀ x ∈ xs, c.Fits x := Iff.rfl

@[simp] theorem Codec.fits_option {x : Option α} : (Codec.option c).Fits x ↔ ∀ a ∈ x, c.Fits a := Iff.rfl

@[simp] theorem Arm.fits_of {tag : Nat} {inject : β → α} {project : α → Option β} {x : α} :
    (Arm.of tag d inject project).Fits x ↔ ∃ b, project x = some b ∧ d.Fits b := Iff.rfl

@[simp] theorem Arm.fits_void {tag : Nat} {value : α} {holds : α → Bool} {x : α} :
    (Arm.void tag value holds).Fits x ↔ holds x = true := Iff.rfl

@[simp] theorem Codec.fits_only {tag : Nat} {x : α} : (Codec.only tag c).Fits x ↔ c.Fits x := by
  simp [Codec.only, Codec.union_fits_cons, Codec.union_fits_nil]

attribute [simp] Codec.union_fits_cons Codec.union_fits_nil

end Xdr

/-! ## Values without a bound -/

@[simp] theorem Hash.fits (h : Hash) : Hash.codec.Fits h := trivial

@[simp] theorem AccountId.fits (a : AccountId) : AccountId.codec.Fits a := by simp [AccountId.codec]

@[simp] theorem MuxedAccount.fits (a : MuxedAccount) : MuxedAccount.codec.Fits a := by
  cases a <;> simp [MuxedAccount.codec]

@[simp] theorem AlphaNum4.fits (a : AlphaNum4) : AlphaNum4.codec.Fits a := by simp [AlphaNum4.codec]

@[simp] theorem AlphaNum12.fits (a : AlphaNum12) : AlphaNum12.codec.Fits a := by simp [AlphaNum12.codec]

@[simp] theorem Asset.fits (a : Asset) : Asset.codec.Fits a := by cases a <;> simp [Asset.codec]

@[simp] theorem AssetCode.fits (a : AssetCode) : AssetCode.codec.Fits a := by
  cases a <;> simp [AssetCode.codec]

@[simp] theorem Price.fits (p : Price) : Price.codec.Fits p := by simp [Price.codec]

@[simp] theorem ConstantProductPool.fits (p : ConstantProductPool) : ConstantProductPool.codec.Fits p := by
  simp [ConstantProductPool.codec]

@[simp] theorem ChangeTrustAsset.fits (a : ChangeTrustAsset) : ChangeTrustAsset.codec.Fits a := by
  cases a <;> simp [ChangeTrustAsset.codec]

@[simp] theorem TrustLineAsset.fits (a : TrustLineAsset) : TrustLineAsset.codec.Fits a := by
  cases a <;> simp [TrustLineAsset.codec]

@[simp] theorem ClaimableBalanceId.fits (b : ClaimableBalanceId) : ClaimableBalanceId.codec.Fits b := by
  simp [ClaimableBalanceId.codec]

@[simp] theorem Address.fits (a : Address) : Address.codec.Fits a := by cases a <;> simp [Address.codec]

@[simp] theorem Executable.fits (x : Executable) : Executable.codec.Fits x := by
  cases x <;> simp [Executable.codec]

@[simp] theorem ErrorCode.fits (code : ErrorCode) : ErrorCode.codec.Fits code := by
  change code ∈ _
  cases code <;> decide

@[simp] theorem ContractError.fits (e : ContractError) : ContractError.codec.Fits e := by
  cases e with
  | contract code => simp [ContractError.codec]
  | host source code => cases source <;> simp [ContractError.codec, ErrorSource.all]

@[simp] theorem Durability.fits (d : Durability) : Durability.codec.Fits d := by
  change d ∈ _
  cases d <;> decide

@[simp] theorem ConfigSetting.fits (s : ConfigSetting) : ConfigSetting.codec.Fits s := by
  change s ∈ _
  cases s <;> decide

@[simp] theorem ContractIdPreimage.fits (p : ContractIdPreimage) : ContractIdPreimage.codec.Fits p := by
  cases p <;> simp [ContractIdPreimage.codec]

@[simp] theorem ContractCreation.fits (c : ContractCreation) : ContractCreation.codec.Fits c := by
  simp [ContractCreation.codec]

@[simp] theorem CreateAccount.fits (o : CreateAccount) : CreateAccount.codec.Fits o := by
  simp [CreateAccount.codec]

@[simp] theorem Payment.fits (o : Payment) : Payment.codec.Fits o := by simp [Payment.codec]

@[simp] theorem ManagedOffer.fits (o : ManagedOffer) : ManagedOffer.codec.Fits o := by
  simp [ManagedOffer.codec]

@[simp] theorem PassiveOffer.fits (o : PassiveOffer) : PassiveOffer.codec.Fits o := by
  simp [PassiveOffer.codec]

@[simp] theorem ChangeTrust.fits (o : ChangeTrust) : ChangeTrust.codec.Fits o := by
  simp [ChangeTrust.codec]

@[simp] theorem AllowTrust.fits (o : AllowTrust) : AllowTrust.codec.Fits o := by simp [AllowTrust.codec]

@[simp] theorem Clawback.fits (o : Clawback) : Clawback.codec.Fits o := by simp [Clawback.codec]

@[simp] theorem SetTrustLineFlags.fits (o : SetTrustLineFlags) : SetTrustLineFlags.codec.Fits o := by
  simp [SetTrustLineFlags.codec]

@[simp] theorem PoolDeposit.fits (o : PoolDeposit) : PoolDeposit.codec.Fits o := by
  simp [PoolDeposit.codec]

@[simp] theorem PoolWithdrawal.fits (o : PoolWithdrawal) : PoolWithdrawal.codec.Fits o := by
  simp [PoolWithdrawal.codec]

@[simp] theorem extensionPoint_fits (x : Unit) : extensionPoint.Fits x := by
  simp [extensionPoint]

@[simp] theorem TimeBounds.fits (b : TimeBounds) : TimeBounds.codec.Fits b := by simp [TimeBounds.codec]

@[simp] theorem LedgerBounds.fits (b : LedgerBounds) : LedgerBounds.codec.Fits b := by
  simp [LedgerBounds.codec]

/-! ## Values with bounds -/

/-- Byte strings and texts of any length the format can express, symbols of 32 bytes. -/
def Scalar.Fits : Scalar → Prop
  | .bytes data => data.length ≤ unbounded
  | .string text => text.length ≤ unbounded
  | .symbol text => text.length ≤ 32
  | _ => True

@[simp] theorem Scalar.fits_iff {s : Scalar} : Scalar.codec.Fits s ↔ s.Fits := by
  cases s <;> simp [codec, arms, Scalar.Fits]

@[simp] theorem Value.fits_iff {v : Value} : Value.codec.Fits v ↔ v.Fits := Iff.rfl

/-- Payloads of at most 64 bytes. -/
def SignerKey.Fits : SignerKey → Prop
  | .signedPayload _ payload => payload.length ≤ 64
  | _ => True

@[simp] theorem SignerKey.fits_iff {key : SignerKey} : SignerKey.codec.Fits key ↔ key.Fits := by
  cases key <;> simp [codec, SignerKey.Fits]

@[simp] theorem WeightedSigner.fits_iff {s : WeightedSigner} : WeightedSigner.codec.Fits s ↔ s.key.Fits := by
  simp [codec]

def LedgerKey.Fits : LedgerKey → Prop
  | .data _ name => name.length ≤ 64
  | .contractData _ key _ => key.Fits
  | _ => True

@[simp] theorem LedgerKey.fits_iff {key : LedgerKey} : LedgerKey.codec.Fits key ↔ key.Fits := by
  cases key <;> simp [codec, LedgerKey.Fits]

@[simp] theorem Claimant.fits_iff {c : Claimant} : Claimant.codec.Fits c ↔ c.predicate.Fits := by
  simp [codec, ClaimPredicate.codec]

/-! ## Calls and those who authorize them -/

/-- Names of functions have at most 32 bytes. -/
def ContractCall.Fits (c : ContractCall) : Prop :=
  c.function.length ≤ 32 ∧ c.args.length ≤ unbounded ∧ ∀ v ∈ c.args, v.Fits

@[simp] theorem ContractCall.fits_iff {c : ContractCall} : ContractCall.codec.Fits c ↔ c.Fits := by
  simp [codec, ContractCall.Fits]

def ConstructedCreation.Fits (c : ConstructedCreation) : Prop :=
  c.args.length ≤ unbounded ∧ ∀ v ∈ c.args, v.Fits

@[simp] theorem ConstructedCreation.fits_iff {c : ConstructedCreation} :
    ConstructedCreation.codec.Fits c ↔ c.Fits := by
  simp [codec, ConstructedCreation.Fits]

def HostFunction.Fits : HostFunction → Prop
  | .invoke call => call.Fits
  | .create _ => True
  | .uploadWasm code => code.length ≤ unbounded
  | .createConstructed creation => creation.Fits

@[simp] theorem HostFunction.fits_iff {f : HostFunction} : HostFunction.codec.Fits f ↔ f.Fits := by
  cases f <;> simp [codec, HostFunction.Fits]

def AuthorizedFunction.Fits : AuthorizedFunction → Prop
  | .call c => c.Fits
  | .create _ => True
  | .createConstructed creation => creation.Fits

@[simp] theorem AuthorizedFunction.fits_iff {f : AuthorizedFunction} :
    AuthorizedFunction.codec.Fits f ↔ f.Fits := by
  cases f <;> simp [codec, AuthorizedFunction.Fits]

theorem Invocation.fits_node {function : AuthorizedFunction} {subs : List Invocation} :
    (Invocation.node function subs).Fits ↔
      function.Fits ∧ subs.length ≤ unbounded ∧ ∀ i ∈ subs, i.Fits := by
  simp [Invocation.Fits, allFit_iff]

@[simp] theorem AddressCredentials.fits_iff {c : AddressCredentials} :
    AddressCredentials.codec.Fits c ↔ c.signature.Fits := by
  simp [codec]

def Credentials.Fits : Credentials → Prop
  | .sourceAccount => True
  | .address c => c.signature.Fits

@[simp] theorem Credentials.fits_iff {c : Credentials} : Credentials.codec.Fits c ↔ c.Fits := by
  cases c <;> simp [codec, Credentials.Fits]

def AuthorizationEntry.Fits (e : AuthorizationEntry) : Prop :=
  e.credentials.Fits ∧ e.rootInvocation.Fits

@[simp] theorem AuthorizationEntry.fits_iff {e : AuthorizationEntry} :
    AuthorizationEntry.codec.Fits e ↔ e.Fits := by
  simp [codec, AuthorizationEntry.Fits, Invocation.codec]

/-! ## Operations -/

def PathPayment.Fits (o : PathPayment) : Prop := o.path.length ≤ 5

@[simp] theorem PathPayment.fits_iff {o : PathPayment} : PathPayment.codec.Fits o ↔ o.Fits := by
  simp [codec, PathPayment.Fits]

def SetOptions.Fits (o : SetOptions) : Prop :=
  (∀ domain ∈ o.homeDomain, domain.length ≤ 32) ∧ ∀ signer ∈ o.signer, signer.key.Fits

@[simp] theorem SetOptions.fits_iff {o : SetOptions} : SetOptions.codec.Fits o ↔ o.Fits := by
  simp [codec, SetOptions.Fits]

def ManageData.Fits (o : ManageData) : Prop :=
  o.name.length ≤ 64 ∧ ∀ value ∈ o.value, value.length ≤ 64

@[simp] theorem ManageData.fits_iff {o : ManageData} : ManageData.codec.Fits o ↔ o.Fits := by
  simp [codec, ManageData.Fits]

def CreateClaimableBalance.Fits (o : CreateClaimableBalance) : Prop :=
  o.claimants.length ≤ 10 ∧ ∀ c ∈ o.claimants, c.predicate.Fits

@[simp] theorem CreateClaimableBalance.fits_iff {o : CreateClaimableBalance} :
    CreateClaimableBalance.codec.Fits o ↔ o.Fits := by
  simp [codec, CreateClaimableBalance.Fits]

def RevokeSponsorship.Fits : RevokeSponsorship → Prop
  | .ledgerEntry key => key.Fits
  | .signer _ key => key.Fits

@[simp] theorem RevokeSponsorship.fits_iff {o : RevokeSponsorship} :
    RevokeSponsorship.codec.Fits o ↔ o.Fits := by
  cases o <;> simp [codec, RevokeSponsorship.Fits]

def InvokeHostFunction.Fits (o : InvokeHostFunction) : Prop :=
  o.function.Fits ∧ o.auth.length ≤ unbounded ∧ ∀ e ∈ o.auth, e.Fits

@[simp] theorem InvokeHostFunction.fits_iff {o : InvokeHostFunction} :
    InvokeHostFunction.codec.Fits o ↔ o.Fits := by
  simp [codec, InvokeHostFunction.Fits]

/-- Only these kinds of operations hold lists or byte strings. -/
def OperationBody.Fits : OperationBody → Prop
  | .pathPaymentStrictReceive op => op.Fits
  | .pathPaymentStrictSend op => op.Fits
  | .setOptions op => op.Fits
  | .manageData op => op.Fits
  | .createClaimableBalance op => op.Fits
  | .revokeSponsorship op => op.Fits
  | .invokeHostFunction op => op.Fits
  | _ => True

@[simp] theorem OperationBody.fits_iff {b : OperationBody} : OperationBody.codec.Fits b ↔ b.Fits := by
  cases b <;> simp [codec, OperationBody.Fits]

@[simp] theorem Operation.fits_iff {o : Operation} : Operation.codec.Fits o ↔ o.body.Fits := by
  simp [codec]

/-! ## Transactions and envelopes -/

def Memo.Fits : Memo → Prop
  | .text t => t.length ≤ 28
  | _ => True

@[simp] theorem Memo.fits_iff {m : Memo} : Memo.codec.Fits m ↔ m.Fits := by
  cases m <;> simp [codec, Memo.Fits]

def Preconditions.Fits : Preconditions → Prop
  | .general conditions => conditions.extraSigners.length ≤ 2 ∧ ∀ key ∈ conditions.extraSigners, key.Fits
  | _ => True

@[simp] theorem Preconditions.fits_iff {p : Preconditions} : Preconditions.codec.Fits p ↔ p.Fits := by
  cases p <;> simp [codec, GeneralPreconditions.codec, Preconditions.Fits]

def Footprint.Fits (f : Footprint) : Prop :=
  (f.readOnly.length ≤ unbounded ∧ ∀ key ∈ f.readOnly, key.Fits) ∧
    f.readWrite.length ≤ unbounded ∧ ∀ key ∈ f.readWrite, key.Fits

def ResourceData.Fits (d : ResourceData) : Prop :=
  (∀ archived ∈ d.archivedEntries, archived.length ≤ unbounded) ∧ d.resources.footprint.Fits

@[simp] theorem ResourceData.fits_iff {d : ResourceData} : ResourceData.codec.Fits d ↔ d.Fits := by
  simp [codec, Resources.codec, Footprint.codec, ResourceData.Fits, Footprint.Fits]

def OperationsFit (operations : List Operation) : Prop :=
  operations.length ≤ Transaction.operationLimit ∧ ∀ o ∈ operations, o.body.Fits

def Transaction.Fits (t : Transaction) : Prop :=
  t.preconditions.Fits ∧ t.memo.Fits ∧ OperationsFit t.operations ∧ ∀ data ∈ t.resourceData, data.Fits

@[simp] theorem Transaction.fits_iff {t : Transaction} : Transaction.codec.Fits t ↔ t.Fits := by
  simp [codec, Transaction.Fits, OperationsFit]

/-- At most 20 signatures, of at most 64 bytes each. -/
def SignaturesFit (signatures : List DecoratedSignature) : Prop :=
  signatures.length ≤ 20 ∧ ∀ s ∈ signatures, s.signature.length ≤ 64

@[simp] theorem signatures_fit_iff {signatures : List DecoratedSignature} :
    (Codec.list 20 DecoratedSignature.codec).Fits signatures ↔ SignaturesFit signatures := by
  simp [DecoratedSignature.codec, SignaturesFit]

def SignedTransaction.Fits (e : SignedTransaction) : Prop :=
  e.transaction.Fits ∧ SignaturesFit e.signatures

@[simp] theorem SignedTransaction.fits_iff {e : SignedTransaction} :
    SignedTransaction.codec.Fits e ↔ e.Fits := by
  simp only [codec, Codec.fits_imap, Codec.fits_pair, Transaction.fits_iff, signatures_fit_iff,
    SignedTransaction.Fits]

/-- Every list and byte string in the envelope is within the bound of its place. -/
def Envelope.Fits : Envelope → Prop
  | .v0 e => (e.transaction.memo.Fits ∧ OperationsFit e.transaction.operations) ∧ SignaturesFit e.signatures
  | .v1 e => e.Fits
  | .feeBump b => b.inner.Fits ∧ SignaturesFit b.signatures

@[simp] theorem Envelope.fits_iff {e : Envelope} : Envelope.codec.Fits e ↔ e.Fits := by
  cases e <;> simp [codec, SignedTransactionV0.codec, TransactionV0.codec, FeeBump.codec, Envelope.Fits,
    OperationsFit, SignaturesFit, DecoratedSignature.codec]

end AuthSigner
