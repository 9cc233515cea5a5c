import AuthSigner.Ledger.Address

/-! Contract values: the arguments of calls, the keys and contents of contract
storage, and the signatures in credentials. A value is a scalar or holds other
values; only the four ways of holding values recurse. -/
namespace AuthSigner
open Xdr

/-- The code a contract runs. -/
inductive Executable where
  | wasm (hash : Hash)
  | stellarAsset
deriving DecidableEq

def Executable.codec : Codec Executable := .union [
  .of 0 Hash.codec .wasm fun | .wasm hash => some hash | _ => none,
  .void 1 .stellarAsset fun | .stellarAsset => true | _ => false]

/-- The part of the host that raised an error. -/
inductive ErrorSource where
  | wasmVm | context | storage | object | crypto | events | budget | value | auth
deriving DecidableEq

/-- The sources of host errors, in the order of their numbers. -/
def ErrorSource.all : List ErrorSource :=
  [.wasmVm, .context, .storage, .object, .crypto, .events, .budget, .value, .auth]

/-- What went wrong in the host. -/
inductive ErrorCode where
  | arithDomain | indexBounds | invalidInput | missingValue | existingValue
  | exceededLimit | invalidAction | internalError | unexpectedType | unexpectedSize
deriving DecidableEq

def ErrorCode.codec : Codec ErrorCode := .enumeration
  [.arithDomain, .indexBounds, .invalidInput, .missingValue, .existingValue,
    .exceededLimit, .invalidAction, .internalError, .unexpectedType, .unexpectedSize]

/-- An error of a contract, whose code is the contract's own, or of the host. -/
inductive ContractError where
  | contract (code : UInt32)
  | host (source : ErrorSource) (code : ErrorCode)
deriving DecidableEq

/-- Contract errors are numbered zero and the host's sources follow. -/
def ContractError.codec : Codec ContractError := .union <|
  .of 0 .u32 .contract (fun | .contract code => some code | _ => none) ::
  ErrorSource.all.mapIdx fun i source =>
    .of (i + 1) ErrorCode.codec (.host source)
      fun | .host s code => if s = source then some code else none | _ => none

/-- A value that holds no other values. -/
inductive Scalar where
  | bool (b : Bool)
  | void
  | error (e : ContractError)
  | u32 (n : UInt32)
  | i32 (n : Int32)
  | u64 (n : UInt64)
  | i64 (n : Int64)
  | timepoint (n : UInt64)
  | duration (n : UInt64)
  | u128 (high low : UInt64)
  | i128 (high : Int64) (low : UInt64)
  | u256 (highest high low lowest : UInt64)
  | i256 (highest : Int64) (high low lowest : UInt64)
  | bytes (data : Bytes)
  | string (text : Bytes)
  | symbol (text : Bytes)
  | address (a : Address)
  | ledgerKeyContractInstance
  | ledgerKeyNonce (nonce : Int64)
deriving DecidableEq

/-- The alternatives of scalars. The numbers 16, 17 and 19 belong to the values
that hold others. -/
def Scalar.arms : List (Arm Scalar) := [
  .of 0 .bool .bool fun | .bool b => some b | _ => none,
  .void 1 .void fun | .void => true | _ => false,
  .of 2 ContractError.codec .error fun | .error e => some e | _ => none,
  .of 3 .u32 .u32 fun | .u32 n => some n | _ => none,
  .of 4 .i32 .i32 fun | .i32 n => some n | _ => none,
  .of 5 .u64 .u64 fun | .u64 n => some n | _ => none,
  .of 6 .i64 .i64 fun | .i64 n => some n | _ => none,
  .of 7 .u64 .timepoint fun | .timepoint n => some n | _ => none,
  .of 8 .u64 .duration fun | .duration n => some n | _ => none,
  .of 9 (.pair .u64 .u64) (fun (hi, lo) => .u128 hi lo) fun | .u128 hi lo => some (hi, lo) | _ => none,
  .of 10 (.pair .i64 .u64) (fun (hi, lo) => .i128 hi lo) fun | .i128 hi lo => some (hi, lo) | _ => none,
  .of 11 (.pair .u64 (.pair .u64 (.pair .u64 .u64))) (fun (a, b, c, d) => .u256 a b c d)
    fun | .u256 a b c d => some (a, b, c, d) | _ => none,
  .of 12 (.pair .i64 (.pair .u64 (.pair .u64 .u64))) (fun (a, b, c, d) => .i256 a b c d)
    fun | .i256 a b c d => some (a, b, c, d) | _ => none,
  .of 13 (.bytes unbounded) .bytes fun | .bytes data => some data | _ => none,
  .of 14 (.bytes unbounded) .string fun | .string text => some text | _ => none,
  .of 15 (.bytes 32) .symbol fun | .symbol text => some text | _ => none,
  .of 18 Address.codec .address fun | .address a => some a | _ => none,
  .void 20 .ledgerKeyContractInstance fun | .ledgerKeyContractInstance => true | _ => false,
  .of 21 .i64 .ledgerKeyNonce fun | .ledgerKeyNonce nonce => some nonce | _ => none]

def Scalar.codec : Codec Scalar := .union Scalar.arms

/-- A contract value. Vectors and maps may be absent, and a map is the list of
its entries as written, in any order and with repetitions. -/
inductive Value where
  | scalar (s : Scalar)
  | vec (items : Option (List Value))
  | map (entries : Option (List (Value × Value)))
  | contractInstance (executable : Executable) (storage : Option (List (Value × Value)))

namespace Value

instance : Inhabited Value := ⟨.scalar .void⟩

mutual

/-- The canonical bytes of a value. -/
def write : Value → Bytes
  | .scalar s => Scalar.codec.write s
  | .vec none => count 16 ++ count 0
  | .vec (some items) => count 16 ++ (count 1 ++ (count items.length ++ writeItems items))
  | .map none => count 17 ++ count 0
  | .map (some entries) => count 17 ++ (count 1 ++ (count entries.length ++ writeEntries entries))
  | .contractInstance executable none => count 19 ++ (Executable.codec.write executable ++ count 0)
  | .contractInstance executable (some entries) =>
    count 19 ++ (Executable.codec.write executable ++
      (count 1 ++ (count entries.length ++ writeEntries entries)))
termination_by structural v => v

/-- Values one after the other. -/
def writeItems : List Value → Bytes
  | [] => []
  | v :: rest => v.write ++ writeItems rest
termination_by structural items => items

/-- Entries one after the other, each as its key and its value. -/
def writeEntries : List (Value × Value) → Bytes
  | [] => []
  | (k, v) :: rest => (k.write ++ v.write) ++ writeEntries rest
termination_by structural entries => entries

end

mutual

/-- Every list and byte string in the value has a length the format can express. -/
def Fits : Value → Prop
  | .scalar s => Scalar.codec.Fits s
  | .vec none => True
  | .vec (some items) => items.length ≤ unbounded ∧ ItemsFit items
  | .map none => True
  | .map (some entries) => entries.length ≤ unbounded ∧ EntriesFit entries
  | .contractInstance executable none => Executable.codec.Fits executable
  | .contractInstance executable (some entries) =>
    Executable.codec.Fits executable ∧ entries.length ≤ unbounded ∧ EntriesFit entries
termination_by structural v => v

def ItemsFit : List Value → Prop
  | [] => True
  | v :: rest => v.Fits ∧ ItemsFit rest
termination_by structural items => items

def EntriesFit : List (Value × Value) → Prop
  | [] => True
  | (k, v) :: rest => k.Fits ∧ v.Fits ∧ EntriesFit rest
termination_by structural entries => entries

end

/-- The alternatives of scalars, as values. -/
def scalarArms : List (Arm Value) :=
  Scalar.arms.map (.within .scalar fun | .scalar s => some s | _ => none)

/-- The alternatives of values, given the format of the values they hold. -/
def arms (inner : Codec Value) : List (Arm Value) := scalarArms ++ [
  .of 16 (.option (.list unbounded inner)) .vec fun | .vec items => some items | _ => none,
  .of 17 (.option (.list unbounded (inner.pair inner))) .map
    fun | .map entries => some entries | _ => none,
  .of 19 (Executable.codec.pair (.option (.list unbounded (inner.pair inner))))
    (fun (executable, storage) => .contractInstance executable storage)
    fun | .contractInstance executable storage => some (executable, storage) | _ => none]

/-- The format of a value, given the format of the values it holds. -/
def layer (inner : Codec Value) : Codec Value := .union (arms inner)

/-- Reads a value that holds others at most `depth` levels down. -/
def read : Nat → Reader Value
  | 0 => Reader.fail .truncated
  | depth + 1 => (layer ⟨fun _ => [], fun _ => read depth, fun _ => True⟩).read depth

def codec : Codec Value := ⟨write, read, Fits⟩

end Value
end AuthSigner
