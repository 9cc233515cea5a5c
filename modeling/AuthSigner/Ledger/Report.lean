import AuthSigner.Bytes.Hex
import AuthSigner.Ledger.AddressText
import AuthSigner.Ledger.Authorization
import AuthSigner.Text.Json

/-! Authorizations as JSON, for the user who is about to sign them. Numbers that
need more than 32 bits are written as texts, bytes as hexadecimal digits, and
names escaped to ASCII. -/
namespace AuthSigner

/-- A byte of a name, in ASCII. -/
def asciiByte (b : UInt8) : List Char :=
  if b = 0 then ['\\', '0']
  else if b = 9 then ['\\', 't']
  else if b = 10 then ['\\', 'n']
  else if b = 13 then ['\\', 'r']
  else if b = 92 then ['\\', '\\']
  else if 32 ≤ b ∧ b ≤ 126 then [Char.ofNat b.toNat]
  else ['\\', 'x', Hex.digit (b.toNat / 16), Hex.digit (b.toNat % 16)]

/-- A name, escaped to ASCII. -/
def asciiText (bytes : Bytes) : Json := .string (String.ofList (bytes.flatMap asciiByte))

/-- Bytes as hexadecimal digits. -/
def hexText (bytes : Bytes) : Json := .string (Hex.encode bytes)

/-- A large number as a text. -/
def decimal (n : Int) : Json := .string (toString n)

/-- A record with one field, which names the alternative it holds. -/
def tagged (name : String) (value : Json) : Json := .object [(name, value)]

/-- An asset code without the zeros at its end, but at least `least` bytes of it. -/
def assetCode (least : Nat) (code : Bytes) : Json :=
  let used := (code.reverse.dropWhile (· == 0)).length
  asciiText (code.take (max used least))

def Address.json (a : Address) : Json := .string a.text

def Asset.json : Asset → Json
  | .native => .string "native"
  | .alphaNum4 a => tagged "credit_alphanum4" <| .object
    [("asset_code", assetCode 0 a.code.toBytes), ("issuer", .string (publicKeyText a.issuer.key))]
  | .alphaNum12 a => tagged "credit_alphanum12" <| .object
    [("asset_code", assetCode 5 a.code.toBytes), ("issuer", .string (publicKeyText a.issuer.key))]

def Executable.json : Executable → Json
  | .wasm hash => tagged "wasm" (hexText hash.toBytes)
  | .stellarAsset => .string "stellar_asset"

def ErrorSource.text : ErrorSource → String
  | .wasmVm => "wasm_vm"
  | .context => "context"
  | .storage => "storage"
  | .object => "object"
  | .crypto => "crypto"
  | .events => "events"
  | .budget => "budget"
  | .value => "value"
  | .auth => "auth"

def ErrorCode.text : ErrorCode → String
  | .arithDomain => "arith_domain"
  | .indexBounds => "index_bounds"
  | .invalidInput => "invalid_input"
  | .missingValue => "missing_value"
  | .existingValue => "existing_value"
  | .exceededLimit => "exceeded_limit"
  | .invalidAction => "invalid_action"
  | .internalError => "internal_error"
  | .unexpectedType => "unexpected_type"
  | .unexpectedSize => "unexpected_size"

def ContractError.json : ContractError → Json
  | .contract code => tagged "contract" (.number code.toNat)
  | .host source code => tagged source.text (.string code.text)

/-- The number whose 64-bit digits these are, the highest first. The sign is that
of the highest. -/
def joinWords (highest : Int) (lower : List UInt64) : Int :=
  lower.foldl (fun n word => n * UInt64.size + word.toNat) highest

def Scalar.json : Scalar → Json
  | .bool b => tagged "bool" (.bool b)
  | .void => .string "void"
  | .error e => tagged "error" e.json
  | .u32 n => tagged "u32" (.number n.toNat)
  | .i32 n => tagged "i32" (.number n.toInt)
  | .u64 n => tagged "u64" (decimal n.toNat)
  | .i64 n => tagged "i64" (decimal n.toInt)
  | .timepoint n => tagged "timepoint" (decimal n.toNat)
  | .duration n => tagged "duration" (decimal n.toNat)
  | .u128 high low => tagged "u128" (decimal (joinWords high.toNat [low]))
  | .i128 high low => tagged "i128" (decimal (joinWords high.toInt [low]))
  | .u256 a b c d => tagged "u256" (decimal (joinWords a.toNat [b, c, d]))
  | .i256 a b c d => tagged "i256" (decimal (joinWords a.toInt [b, c, d]))
  | .bytes data => tagged "bytes" (hexText data)
  | .string text => tagged "string" (asciiText text)
  | .symbol text => tagged "symbol" (asciiText text)
  | .address a => tagged "address" a.json
  | .ledgerKeyContractInstance => .string "ledger_key_contract_instance"
  | .ledgerKeyNonce nonce => tagged "ledger_key_nonce" (.object [("nonce", decimal nonce.toInt)])

namespace Value

mutual

def json : Value → Json
  | .scalar s => s.json
  | .vec none => tagged "vec" .null
  | .vec (some items) => tagged "vec" (.array (jsonItems items))
  | .map none => tagged "map" .null
  | .map (some entries) => tagged "map" (.array (jsonEntries entries))
  | .contractInstance executable none =>
    tagged "contract_instance" (.object [("executable", executable.json), ("storage", .null)])
  | .contractInstance executable (some entries) =>
    tagged "contract_instance"
      (.object [("executable", executable.json), ("storage", .array (jsonEntries entries))])
termination_by structural v => v

def jsonItems : List Value → List Json
  | [] => []
  | v :: rest => v.json :: jsonItems rest
termination_by structural items => items

def jsonEntries : List (Value × Value) → List Json
  | [] => []
  | (k, v) :: rest => .object [("key", k.json), ("val", v.json)] :: jsonEntries rest
termination_by structural entries => entries

end

end Value

def ContractIdPreimage.json : ContractIdPreimage → Json
  | .address a salt => tagged "address" (.object [("address", a.json), ("salt", hexText salt.toBytes)])
  | .asset a => tagged "asset" a.json

def AuthorizedFunction.json : AuthorizedFunction → Json
  | .call c => tagged "contract_fn" <| .object
    [("contract_address", c.contract.json), ("function_name", asciiText c.function),
      ("args", .array (c.args.map Value.json))]
  | .create c => tagged "create_contract_host_fn" <| .object
    [("contract_id_preimage", c.preimage.json), ("executable", c.executable.json)]
  | .createConstructed c => tagged "create_contract_v2_host_fn" <| .object
    [("contract_id_preimage", c.preimage.json), ("executable", c.executable.json),
      ("constructor_args", .array (c.args.map Value.json))]

namespace Invocation

mutual

def json : Invocation → Json
  | .node function subs =>
    .object [("function", function.json), ("sub_invocations", .array (jsonAll subs))]
termination_by structural i => i

def jsonAll : List Invocation → List Json
  | [] => []
  | i :: rest => i.json :: jsonAll rest
termination_by structural subs => subs

end

end Invocation

def AddressCredentials.json (c : AddressCredentials) : Json := .object
  [("address", c.address.json), ("nonce", decimal c.nonce.toInt),
    ("signature_expiration_ledger", .number c.expiration.toNat), ("signature", c.signature.json)]

end AuthSigner
