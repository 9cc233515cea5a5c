import AuthSigner.Ledger.Authorization
import AuthSigner.Ledger.Claim
import AuthSigner.Ledger.LedgerKey

/-! The operations of a transaction. Only `invokeHostFunction` carries
authorization entries; the others are kept whole and written back. -/
namespace AuthSigner
open Xdr

structure CreateAccount where
  destination : AccountId
  startingBalance : Int64
deriving DecidableEq

def CreateAccount.codec : Codec CreateAccount :=
  (AccountId.codec.pair .i64).imap (fun (d, b) => ⟨d, b⟩) fun o => (o.destination, o.startingBalance)

structure Payment where
  destination : MuxedAccount
  asset : Asset
  amount : Int64
deriving DecidableEq

def Payment.codec : Codec Payment :=
  (MuxedAccount.codec.pair (Asset.codec.pair .i64)).imap (fun (d, a, n) => ⟨d, a, n⟩)
    fun o => (o.destination, o.asset, o.amount)

/-- A payment through other assets. One of the two amounts is exact and the
other is a limit; the operation says which. -/
structure PathPayment where
  sendAsset : Asset
  sendAmount : Int64
  destination : MuxedAccount
  receiveAsset : Asset
  receiveAmount : Int64
  path : List Asset
deriving DecidableEq

def PathPayment.codec : Codec PathPayment :=
  (Asset.codec.pair (Codec.i64.pair (MuxedAccount.codec.pair (Asset.codec.pair
    (Codec.i64.pair (.list 5 Asset.codec)))))).imap
    (fun (sa, sn, d, ra, rn, path) => ⟨sa, sn, d, ra, rn, path⟩)
    fun o => (o.sendAsset, o.sendAmount, o.destination, o.receiveAsset, o.receiveAmount, o.path)

/-- An offer that is placed, changed or withdrawn. -/
structure ManagedOffer where
  selling : Asset
  buying : Asset
  amount : Int64
  price : Price
  offer : Int64
deriving DecidableEq

def ManagedOffer.codec : Codec ManagedOffer :=
  (Asset.codec.pair (Asset.codec.pair (Codec.i64.pair (Price.codec.pair .i64)))).imap
    (fun (s, b, n, p, i) => ⟨s, b, n, p, i⟩) fun o => (o.selling, o.buying, o.amount, o.price, o.offer)

structure PassiveOffer where
  selling : Asset
  buying : Asset
  amount : Int64
  price : Price
deriving DecidableEq

def PassiveOffer.codec : Codec PassiveOffer :=
  (Asset.codec.pair (Asset.codec.pair (Codec.i64.pair Price.codec))).imap
    (fun (s, b, n, p) => ⟨s, b, n, p⟩) fun o => (o.selling, o.buying, o.amount, o.price)

structure SetOptions where
  inflationDestination : Option AccountId
  clearFlags : Option UInt32
  setFlags : Option UInt32
  masterWeight : Option UInt32
  lowThreshold : Option UInt32
  mediumThreshold : Option UInt32
  highThreshold : Option UInt32
  homeDomain : Option Bytes
  signer : Option WeightedSigner
deriving DecidableEq

def SetOptions.codec : Codec SetOptions :=
  (Codec.option AccountId.codec |>.pair <| Codec.option .u32 |>.pair <| Codec.option .u32 |>.pair <|
    Codec.option .u32 |>.pair <| Codec.option .u32 |>.pair <| Codec.option .u32 |>.pair <|
    Codec.option .u32 |>.pair <| Codec.option (.bytes 32) |>.pair <|
    Codec.option WeightedSigner.codec).imap
    (fun (inflation, clear, set, master, low, medium, high, domain, signer) =>
      ⟨inflation, clear, set, master, low, medium, high, domain, signer⟩)
    fun o => (o.inflationDestination, o.clearFlags, o.setFlags, o.masterWeight, o.lowThreshold,
      o.mediumThreshold, o.highThreshold, o.homeDomain, o.signer)

structure ChangeTrust where
  line : ChangeTrustAsset
  limit : Int64
deriving DecidableEq

def ChangeTrust.codec : Codec ChangeTrust :=
  (ChangeTrustAsset.codec.pair .i64).imap (fun (l, n) => ⟨l, n⟩) fun o => (o.line, o.limit)

structure AllowTrust where
  trustor : AccountId
  asset : AssetCode
  authorize : UInt32
deriving DecidableEq

def AllowTrust.codec : Codec AllowTrust :=
  (AccountId.codec.pair (AssetCode.codec.pair .u32)).imap (fun (t, a, n) => ⟨t, a, n⟩)
    fun o => (o.trustor, o.asset, o.authorize)

structure ManageData where
  name : Bytes
  value : Option Bytes
deriving DecidableEq

def ManageData.codec : Codec ManageData :=
  (Codec.pair (.bytes 64) (.option (.bytes 64))).imap (fun (n, v) => ⟨n, v⟩) fun o => (o.name, o.value)

structure CreateClaimableBalance where
  asset : Asset
  amount : Int64
  claimants : List Claimant

def CreateClaimableBalance.codec : Codec CreateClaimableBalance :=
  (Asset.codec.pair (Codec.i64.pair (.list 10 Claimant.codec))).imap (fun (a, n, c) => ⟨a, n, c⟩)
    fun o => (o.asset, o.amount, o.claimants)

inductive RevokeSponsorship where
  | ledgerEntry (key : LedgerKey)
  | signer (account : AccountId) (key : SignerKey)

def RevokeSponsorship.codec : Codec RevokeSponsorship := .union [
  .of 0 LedgerKey.codec .ledgerEntry fun | .ledgerEntry key => some key | _ => none,
  .of 1 (AccountId.codec.pair SignerKey.codec) (fun (a, key) => .signer a key)
    fun | .signer a key => some (a, key) | _ => none]

structure Clawback where
  asset : Asset
  source : MuxedAccount
  amount : Int64
deriving DecidableEq

def Clawback.codec : Codec Clawback :=
  (Asset.codec.pair (MuxedAccount.codec.pair .i64)).imap (fun (a, s, n) => ⟨a, s, n⟩)
    fun o => (o.asset, o.source, o.amount)

structure SetTrustLineFlags where
  trustor : AccountId
  asset : Asset
  clearFlags : UInt32
  setFlags : UInt32
deriving DecidableEq

def SetTrustLineFlags.codec : Codec SetTrustLineFlags :=
  (AccountId.codec.pair (Asset.codec.pair (Codec.u32.pair .u32))).imap (fun (t, a, c, s) => ⟨t, a, c, s⟩)
    fun o => (o.trustor, o.asset, o.clearFlags, o.setFlags)

structure PoolDeposit where
  pool : Hash
  maxAmountA : Int64
  maxAmountB : Int64
  minPrice : Price
  maxPrice : Price
deriving DecidableEq

def PoolDeposit.codec : Codec PoolDeposit :=
  (Hash.codec.pair (Codec.i64.pair (Codec.i64.pair (Price.codec.pair Price.codec)))).imap
    (fun (p, a, b, lo, hi) => ⟨p, a, b, lo, hi⟩)
    fun o => (o.pool, o.maxAmountA, o.maxAmountB, o.minPrice, o.maxPrice)

structure PoolWithdrawal where
  pool : Hash
  amount : Int64
  minAmountA : Int64
  minAmountB : Int64
deriving DecidableEq

def PoolWithdrawal.codec : Codec PoolWithdrawal :=
  (Hash.codec.pair (Codec.i64.pair (Codec.i64.pair .i64))).imap (fun (p, n, a, b) => ⟨p, n, a, b⟩)
    fun o => (o.pool, o.amount, o.minAmountA, o.minAmountB)

/-- A host function, and who authorizes the calls it makes. -/
structure InvokeHostFunction where
  function : HostFunction
  auth : List AuthorizationEntry

def InvokeHostFunction.codec : Codec InvokeHostFunction :=
  (HostFunction.codec.pair (.list unbounded AuthorizationEntry.codec)).imap (fun (f, a) => ⟨f, a⟩)
    fun o => (o.function, o.auth)

/-- A place where the format may grow, which holds nothing so far. -/
def extensionPoint : Codec Unit := .only 0 .unit

inductive OperationBody where
  | createAccount (op : CreateAccount)
  | payment (op : Payment)
  | pathPaymentStrictReceive (op : PathPayment)
  | manageSellOffer (op : ManagedOffer)
  | createPassiveSellOffer (op : PassiveOffer)
  | setOptions (op : SetOptions)
  | changeTrust (op : ChangeTrust)
  | allowTrust (op : AllowTrust)
  | accountMerge (destination : MuxedAccount)
  | inflation
  | manageData (op : ManageData)
  | bumpSequence (sequence : Int64)
  | manageBuyOffer (op : ManagedOffer)
  | pathPaymentStrictSend (op : PathPayment)
  | createClaimableBalance (op : CreateClaimableBalance)
  | claimClaimableBalance (balance : ClaimableBalanceId)
  | beginSponsoringFutureReserves (sponsored : AccountId)
  | endSponsoringFutureReserves
  | revokeSponsorship (op : RevokeSponsorship)
  | clawback (op : Clawback)
  | clawbackClaimableBalance (balance : ClaimableBalanceId)
  | setTrustLineFlags (op : SetTrustLineFlags)
  | liquidityPoolDeposit (op : PoolDeposit)
  | liquidityPoolWithdraw (op : PoolWithdrawal)
  | invokeHostFunction (op : InvokeHostFunction)
  | extendFootprintTtl (extendTo : UInt32)
  | restoreFootprint

def OperationBody.codec : Codec OperationBody := .union [
  .of 0 CreateAccount.codec .createAccount fun | .createAccount o => some o | _ => none,
  .of 1 Payment.codec .payment fun | .payment o => some o | _ => none,
  .of 2 PathPayment.codec .pathPaymentStrictReceive
    fun | .pathPaymentStrictReceive o => some o | _ => none,
  .of 3 ManagedOffer.codec .manageSellOffer fun | .manageSellOffer o => some o | _ => none,
  .of 4 PassiveOffer.codec .createPassiveSellOffer fun | .createPassiveSellOffer o => some o | _ => none,
  .of 5 SetOptions.codec .setOptions fun | .setOptions o => some o | _ => none,
  .of 6 ChangeTrust.codec .changeTrust fun | .changeTrust o => some o | _ => none,
  .of 7 AllowTrust.codec .allowTrust fun | .allowTrust o => some o | _ => none,
  .of 8 MuxedAccount.codec .accountMerge fun | .accountMerge d => some d | _ => none,
  .void 9 .inflation fun | .inflation => true | _ => false,
  .of 10 ManageData.codec .manageData fun | .manageData o => some o | _ => none,
  .of 11 .i64 .bumpSequence fun | .bumpSequence n => some n | _ => none,
  .of 12 ManagedOffer.codec .manageBuyOffer fun | .manageBuyOffer o => some o | _ => none,
  .of 13 PathPayment.codec .pathPaymentStrictSend fun | .pathPaymentStrictSend o => some o | _ => none,
  .of 14 CreateClaimableBalance.codec .createClaimableBalance
    fun | .createClaimableBalance o => some o | _ => none,
  .of 15 ClaimableBalanceId.codec .claimClaimableBalance
    fun | .claimClaimableBalance b => some b | _ => none,
  .of 16 AccountId.codec .beginSponsoringFutureReserves
    fun | .beginSponsoringFutureReserves a => some a | _ => none,
  .void 17 .endSponsoringFutureReserves fun | .endSponsoringFutureReserves => true | _ => false,
  .of 18 RevokeSponsorship.codec .revokeSponsorship fun | .revokeSponsorship o => some o | _ => none,
  .of 19 Clawback.codec .clawback fun | .clawback o => some o | _ => none,
  .of 20 ClaimableBalanceId.codec .clawbackClaimableBalance
    fun | .clawbackClaimableBalance b => some b | _ => none,
  .of 21 SetTrustLineFlags.codec .setTrustLineFlags fun | .setTrustLineFlags o => some o | _ => none,
  .of 22 PoolDeposit.codec .liquidityPoolDeposit fun | .liquidityPoolDeposit o => some o | _ => none,
  .of 23 PoolWithdrawal.codec .liquidityPoolWithdraw fun | .liquidityPoolWithdraw o => some o | _ => none,
  .of 24 InvokeHostFunction.codec .invokeHostFunction fun | .invokeHostFunction o => some o | _ => none,
  .of 25 (extensionPoint.pair .u32) (fun (_, n) => .extendFootprintTtl n)
    fun | .extendFootprintTtl n => some ((), n) | _ => none,
  .of 26 extensionPoint (fun _ => .restoreFootprint)
    fun | .restoreFootprint => some () | _ => none]

structure Operation where
  sourceAccount : Option MuxedAccount
  body : OperationBody

def Operation.codec : Codec Operation :=
  (Codec.pair (.option MuxedAccount.codec) OperationBody.codec).imap (fun (s, b) => ⟨s, b⟩)
    fun o => (o.sourceAccount, o.body)

/-- The authorization entries an operation carries. -/
def Operation.auth (o : Operation) : List AuthorizationEntry :=
  match o.body with
  | .invokeHostFunction op => op.auth
  | _ => []

end AuthSigner
