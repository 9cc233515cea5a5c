import AuthSigner.Ledger.Address
import AuthSigner.StrKey

/-! Addresses and public keys as the texts of keys, and addresses read back. -/
namespace AuthSigner

/-- The text of an ed25519 public key. -/
def publicKeyText (key : Octets 32) : String := StrKey.encode .publicKey key.toBytes

/-- The text of an address. -/
def Address.text : Address → String
  | .account id => publicKeyText id.key
  | .contract id => StrKey.encode .contract id.toBytes
  | .muxed id key => StrKey.encode .muxedAccount (key.toBytes ++ bigEndian 8 id.toNat)
  | .claimableBalance id => StrKey.encode .claimableBalance (0 :: id.hash.toBytes)
  | .liquidityPool id => StrKey.encode .liquidityPool id.toBytes

/-- The address of the text of a key. A seed is no address. -/
def Address.ofText? (text : String) : Option Address :=
  (do return .account ⟨← Octets.ofBytes? 32 (← StrKey.decode? .publicKey text)⟩) <|>
  (do return .contract (← Octets.ofBytes? 32 (← StrKey.decode? .contract text))) <|>
  (do
    let payload ← StrKey.decode? .muxedAccount text
    let id ← Octets.ofBytes? 8 (payload.drop 32)
    return .muxed (UInt64.ofNat (ofBigEndian id.toBytes)) (← Octets.ofBytes? 32 (payload.take 32))) <|>
  (do
    match ← StrKey.decode? .claimableBalance text with
    | 0 :: hash => return .claimableBalance ⟨← Octets.ofBytes? 32 hash⟩
    | _ => none) <|>
  (do return .liquidityPool (← Octets.ofBytes? 32 (← StrKey.decode? .liquidityPool text)))

end AuthSigner
