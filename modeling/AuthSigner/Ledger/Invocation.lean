import AuthSigner.Ledger.Value
import AuthSigner.Ledger.Asset

/-! Calls of contracts and creations of contracts: what an operation asks the
host to run, and what an authorization entry authorizes. An `Invocation` is a
tree, one node for each call that the authorization covers. -/
namespace AuthSigner
open Xdr

/-- A call of a contract's function. -/
structure ContractCall where
  contract : Address
  function : Bytes
  args : List Value

def ContractCall.codec : Codec ContractCall :=
  (Address.codec.pair (Codec.pair (.bytes 32) (.list unbounded Value.codec))).imap
    (fun (contract, function, args) => ⟨contract, function, args⟩)
    fun c => (c.contract, c.function, c.args)

/-- What a new contract's identity is derived from. -/
inductive ContractIdPreimage where
  | address (address : Address) (salt : Octets 32)
  | asset (asset : Asset)
deriving DecidableEq

def ContractIdPreimage.codec : Codec ContractIdPreimage := .union [
  .of 0 (Address.codec.pair (.octets 32)) (fun (a, salt) => .address a salt)
    fun | .address a salt => some (a, salt) | _ => none,
  .of 1 Asset.codec .asset fun | .asset a => some a | _ => none]

/-- The creation of a contract. -/
structure ContractCreation where
  preimage : ContractIdPreimage
  executable : Executable
deriving DecidableEq

def ContractCreation.codec : Codec ContractCreation :=
  (ContractIdPreimage.codec.pair Executable.codec).imap (fun (p, x) => ⟨p, x⟩)
    fun c => (c.preimage, c.executable)

/-- The creation of a contract whose constructor takes arguments. -/
structure ConstructedCreation where
  preimage : ContractIdPreimage
  executable : Executable
  args : List Value

def ConstructedCreation.codec : Codec ConstructedCreation :=
  (ContractIdPreimage.codec.pair (Executable.codec.pair (.list unbounded Value.codec))).imap
    (fun (p, x, args) => ⟨p, x, args⟩) fun c => (c.preimage, c.executable, c.args)

/-- What an operation asks the host to do. -/
inductive HostFunction where
  | invoke (call : ContractCall)
  | create (creation : ContractCreation)
  | uploadWasm (code : Bytes)
  | createConstructed (creation : ConstructedCreation)

def HostFunction.codec : Codec HostFunction := .union [
  .of 0 ContractCall.codec .invoke fun | .invoke c => some c | _ => none,
  .of 1 ContractCreation.codec .create fun | .create c => some c | _ => none,
  .of 2 (.bytes unbounded) .uploadWasm fun | .uploadWasm code => some code | _ => none,
  .of 3 ConstructedCreation.codec .createConstructed fun | .createConstructed c => some c | _ => none]

/-- What one node of an authorization allows. -/
inductive AuthorizedFunction where
  | call (call : ContractCall)
  | create (creation : ContractCreation)
  | createConstructed (creation : ConstructedCreation)

def AuthorizedFunction.codec : Codec AuthorizedFunction := .union [
  .of 0 ContractCall.codec .call fun | .call c => some c | _ => none,
  .of 1 ContractCreation.codec .create fun | .create c => some c | _ => none,
  .of 2 ConstructedCreation.codec .createConstructed fun | .createConstructed c => some c | _ => none]

/-- A call or creation, and the ones it makes in turn that are authorized with it. -/
inductive Invocation where
  | node (function : AuthorizedFunction) (subInvocations : List Invocation)

namespace Invocation

mutual

/-- The canonical bytes of an invocation. -/
def write : Invocation → Bytes
  | .node function subs => AuthorizedFunction.codec.write function ++ (count subs.length ++ writeAll subs)
termination_by structural i => i

/-- Invocations one after the other. -/
def writeAll : List Invocation → Bytes
  | [] => []
  | i :: rest => i.write ++ writeAll rest
termination_by structural subs => subs

end

mutual

/-- Every list and byte string in the tree has a length the format can express. -/
def Fits : Invocation → Prop
  | .node function subs => AuthorizedFunction.codec.Fits function ∧ subs.length ≤ unbounded ∧ AllFit subs
termination_by structural i => i

def AllFit : List Invocation → Prop
  | [] => True
  | i :: rest => i.Fits ∧ AllFit rest
termination_by structural subs => subs

end

/-- The format of a node, given the format of the nodes below it. -/
def layer (inner : Codec Invocation) : Codec Invocation :=
  (AuthorizedFunction.codec.pair (.list unbounded inner)).imap
    (fun (function, subs) => .node function subs) fun | .node function subs => (function, subs)

/-- Reads a tree of at most `depth` levels. -/
def read : Nat → Reader Invocation
  | 0 => Reader.fail .truncated
  | depth + 1 => (layer ⟨fun _ => [], fun _ => read depth, fun _ => True⟩).read depth

def codec : Codec Invocation := ⟨write, read, Fits⟩

end Invocation
end AuthSigner
