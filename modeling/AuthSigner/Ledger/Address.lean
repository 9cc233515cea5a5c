import AuthSigner.Ledger.Account

/-! Addresses: what a contract may call, be called by, or hold the balance of. -/
namespace AuthSigner
open Xdr

/-- The identity of a claimable balance. -/
structure ClaimableBalanceId where
  hash : Hash
deriving DecidableEq

/-- Claimable balances have one kind of identity only, numbered zero. -/
def ClaimableBalanceId.codec : Codec ClaimableBalanceId := (Codec.only 0 Hash.codec).imap .mk (·.hash)

inductive Address where
  | account (id : AccountId)
  | contract (id : Hash)
  | muxed (id : UInt64) (key : Octets 32)
  | claimableBalance (id : ClaimableBalanceId)
  | liquidityPool (id : Hash)
deriving DecidableEq

def Address.codec : Codec Address := .union [
  .of 0 AccountId.codec .account fun | .account id => some id | _ => none,
  .of 1 Hash.codec .contract fun | .contract id => some id | _ => none,
  .of 2 (.pair .u64 (.octets 32)) (fun (id, key) => .muxed id key)
    fun | .muxed id key => some (id, key) | _ => none,
  .of 3 ClaimableBalanceId.codec .claimableBalance fun | .claimableBalance id => some id | _ => none,
  .of 4 Hash.codec .liquidityPool fun | .liquidityPool id => some id | _ => none]

end AuthSigner
