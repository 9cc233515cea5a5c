import AuthSigner.Ledger.Invocation

/-! Authorization entries: who authorizes which tree of calls. An entry is
authorized by the account that sends the transaction, or by an address whose
owner signs for it. -/
namespace AuthSigner
open Xdr

/-- The consent of an address: it holds until the given ledger, for one use of
the nonce, and is proved by the signature. -/
structure AddressCredentials where
  address : Address
  nonce : Int64
  expiration : UInt32
  signature : Value

def AddressCredentials.codec : Codec AddressCredentials :=
  (Address.codec.pair (Codec.i64.pair (Codec.u32.pair Value.codec))).imap
    (fun (address, nonce, expiration, signature) => ⟨address, nonce, expiration, signature⟩)
    fun c => (c.address, c.nonce, c.expiration, c.signature)

inductive Credentials where
  /-- The transaction's source account, whose signature of the transaction suffices. -/
  | sourceAccount
  | address (credentials : AddressCredentials)

def Credentials.codec : Codec Credentials := .union [
  .void 0 .sourceAccount fun | .sourceAccount => true | _ => false,
  .of 1 AddressCredentials.codec .address fun | .address c => some c | _ => none]

structure AuthorizationEntry where
  credentials : Credentials
  rootInvocation : Invocation

def AuthorizationEntry.codec : Codec AuthorizationEntry :=
  (Credentials.codec.pair Invocation.codec).imap (fun (c, i) => ⟨c, i⟩)
    fun e => (e.credentials, e.rootInvocation)

end AuthSigner
