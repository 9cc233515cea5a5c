import AuthSigner.Ledger.Account

/-! Assets, prices between them, and the places where an asset or a liquidity
pool may stand. -/
namespace AuthSigner
open Xdr

/-- An asset code of four bytes, and who issues it. -/
structure AlphaNum4 where
  code : Octets 4
  issuer : AccountId
deriving DecidableEq

def AlphaNum4.codec : Codec AlphaNum4 :=
  (Codec.pair (.octets 4) AccountId.codec).imap (fun (code, issuer) => ⟨code, issuer⟩)
    fun a => (a.code, a.issuer)

/-- An asset code of twelve bytes, and who issues it. -/
structure AlphaNum12 where
  code : Octets 12
  issuer : AccountId
deriving DecidableEq

def AlphaNum12.codec : Codec AlphaNum12 :=
  (Codec.pair (.octets 12) AccountId.codec).imap (fun (code, issuer) => ⟨code, issuer⟩)
    fun a => (a.code, a.issuer)

inductive Asset where
  | native
  | alphaNum4 (asset : AlphaNum4)
  | alphaNum12 (asset : AlphaNum12)
deriving DecidableEq

def Asset.codec : Codec Asset := .union [
  .void 0 .native fun | .native => true | _ => false,
  .of 1 AlphaNum4.codec .alphaNum4 fun | .alphaNum4 a => some a | _ => none,
  .of 2 AlphaNum12.codec .alphaNum12 fun | .alphaNum12 a => some a | _ => none]

/-- An asset code without its issuer. -/
inductive AssetCode where
  | code4 (code : Octets 4)
  | code12 (code : Octets 12)
deriving DecidableEq

def AssetCode.codec : Codec AssetCode := .union [
  .of 1 (.octets 4) .code4 fun | .code4 code => some code | _ => none,
  .of 2 (.octets 12) .code12 fun | .code12 code => some code | _ => none]

/-- A price as a fraction. -/
structure Price where
  numerator : Int32
  denominator : Int32
deriving DecidableEq

def Price.codec : Codec Price :=
  (Codec.pair .i32 .i32).imap (fun (n, d) => ⟨n, d⟩) fun p => (p.numerator, p.denominator)

/-- A liquidity pool of two assets whose product is kept constant. -/
structure ConstantProductPool where
  assetA : Asset
  assetB : Asset
  fee : Int32
deriving DecidableEq

/-- Pools have one kind only, numbered zero. -/
def ConstantProductPool.codec : Codec ConstantProductPool :=
  (Codec.only 0 (Asset.codec.pair (Asset.codec.pair .i32))).imap
    (fun (a, b, fee) => ⟨a, b, fee⟩) fun p => (p.assetA, p.assetB, p.fee)

/-- What an account may declare that it trusts. -/
inductive ChangeTrustAsset where
  | native
  | alphaNum4 (asset : AlphaNum4)
  | alphaNum12 (asset : AlphaNum12)
  | poolShare (pool : ConstantProductPool)
deriving DecidableEq

def ChangeTrustAsset.codec : Codec ChangeTrustAsset := .union [
  .void 0 .native fun | .native => true | _ => false,
  .of 1 AlphaNum4.codec .alphaNum4 fun | .alphaNum4 a => some a | _ => none,
  .of 2 AlphaNum12.codec .alphaNum12 fun | .alphaNum12 a => some a | _ => none,
  .of 3 ConstantProductPool.codec .poolShare fun | .poolShare p => some p | _ => none]

/-- What a trust line holds. -/
inductive TrustLineAsset where
  | native
  | alphaNum4 (asset : AlphaNum4)
  | alphaNum12 (asset : AlphaNum12)
  | poolShare (pool : Hash)
deriving DecidableEq

def TrustLineAsset.codec : Codec TrustLineAsset := .union [
  .void 0 .native fun | .native => true | _ => false,
  .of 1 AlphaNum4.codec .alphaNum4 fun | .alphaNum4 a => some a | _ => none,
  .of 2 AlphaNum12.codec .alphaNum12 fun | .alphaNum12 a => some a | _ => none,
  .of 3 Hash.codec .poolShare fun | .poolShare p => some p | _ => none]

end AuthSigner
