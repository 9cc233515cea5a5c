import AuthSigner.Ledger.Asset
import AuthSigner.Ledger.Value

/-! Keys of ledger entries: what a transaction's footprint names, and what a
sponsorship is revoked for. -/
namespace AuthSigner
open Xdr

/-- How long contract data is kept. -/
inductive Durability where
  | temporary | persistent
deriving DecidableEq

def Durability.codec : Codec Durability := .enumeration [.temporary, .persistent]

/-- The settings of the network, in the order of their numbers. -/
inductive ConfigSetting where
  | contractMaxSizeBytes | contractComputeV0 | contractLedgerCostV0 | contractHistoricalDataV0
  | contractEventsV0 | contractBandwidthV0 | contractCostParamsCpuInstructions
  | contractCostParamsMemoryBytes | contractDataKeySizeBytes | contractDataEntrySizeBytes
  | stateArchival | contractExecutionLanes | liveSorobanStateSizeWindow | evictionIterator
  | contractParallelComputeV0 | contractLedgerCostExtV0 | scpTiming
deriving DecidableEq

def ConfigSetting.codec : Codec ConfigSetting := .enumeration
  [.contractMaxSizeBytes, .contractComputeV0, .contractLedgerCostV0, .contractHistoricalDataV0,
    .contractEventsV0, .contractBandwidthV0, .contractCostParamsCpuInstructions,
    .contractCostParamsMemoryBytes, .contractDataKeySizeBytes, .contractDataEntrySizeBytes,
    .stateArchival, .contractExecutionLanes, .liveSorobanStateSizeWindow, .evictionIterator,
    .contractParallelComputeV0, .contractLedgerCostExtV0, .scpTiming]

inductive LedgerKey where
  | account (account : AccountId)
  | trustline (account : AccountId) (asset : TrustLineAsset)
  | offer (seller : AccountId) (offer : Int64)
  | data (account : AccountId) (name : Bytes)
  | claimableBalance (balance : ClaimableBalanceId)
  | liquidityPool (pool : Hash)
  | contractData (contract : Address) (key : Value) (durability : Durability)
  | contractCode (hash : Hash)
  | configSetting (setting : ConfigSetting)
  | ttl (keyHash : Hash)

def LedgerKey.codec : Codec LedgerKey := .union [
  .of 0 AccountId.codec .account fun | .account a => some a | _ => none,
  .of 1 (AccountId.codec.pair TrustLineAsset.codec) (fun (a, asset) => .trustline a asset)
    fun | .trustline a asset => some (a, asset) | _ => none,
  .of 2 (AccountId.codec.pair .i64) (fun (a, n) => .offer a n)
    fun | .offer a n => some (a, n) | _ => none,
  .of 3 (AccountId.codec.pair (.bytes 64)) (fun (a, name) => .data a name)
    fun | .data a name => some (a, name) | _ => none,
  .of 4 ClaimableBalanceId.codec .claimableBalance fun | .claimableBalance b => some b | _ => none,
  .of 5 Hash.codec .liquidityPool fun | .liquidityPool p => some p | _ => none,
  .of 6 (Address.codec.pair (Value.codec.pair Durability.codec)) (fun (c, k, d) => .contractData c k d)
    fun | .contractData c k d => some (c, k, d) | _ => none,
  .of 7 Hash.codec .contractCode fun | .contractCode h => some h | _ => none,
  .of 8 ConfigSetting.codec .configSetting fun | .configSetting s => some s | _ => none,
  .of 9 Hash.codec .ttl fun | .ttl h => some h | _ => none]

end AuthSigner
