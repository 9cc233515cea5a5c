import AuthSigner.Crypto.Sha2
import AuthSigner.Ledger.Authorization

/-! What an address signs to authorize an invocation. The network rebuilds the
same bytes from the entry when it checks the signature, and checks it against
their digest. -/
namespace AuthSigner
open Xdr

/-- The network, the nonce, the ledger at which the signature expires, and the
invocation: everything that an authorization depends on. -/
structure Payload where
  networkId : Octets 32
  nonce : Int64
  expiration : UInt32
  invocation : Invocation

namespace Payload

/-- The kind of the payload, numbered nine among those that are hashed, and its
parts. -/
def codec : Codec Payload :=
  (Codec.only 9 (Codec.octets 32 |>.pair <| Codec.i64.pair <| Codec.u32.pair Invocation.codec)).imap
    (fun (networkId, nonce, expiration, invocation) => ⟨networkId, nonce, expiration, invocation⟩)
    fun p => (p.networkId, p.nonce, p.expiration, p.invocation)

/-- The bytes of the payload. -/
def bytes (p : Payload) : Bytes := codec.write p

/-- What is signed. -/
def digest (p : Payload) : Octets 32 := sha256 p.bytes

end Payload
end AuthSigner
