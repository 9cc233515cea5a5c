import AuthSigner.Entries.Fallible
import AuthSigner.Entries.Position

/-! Editing the credentials of every address entry of an envelope, all or
nothing. The editor is a program of its own, with its own state and its own
failures; it sees the credentials of one entry at a time and changes them in
place. Its writes are collected in new lists, which are put back where they came
from if they are within the bounds of their places, and the envelope changes only
when nothing has failed. -/
namespace AuthSigner

/-- A program that changes the credentials of one entry. It keeps a state `σ` from
call to call and may fail with `ε`, even after it has written. -/
abbrev Editor (σ ε : Type) :=
  Position → Invocation → ExceptT ε (StateM (AddressCredentials × σ)) Unit

/-- Why an envelope was not edited. -/
inductive EditError (ε : Type) where
  | unsupported (kind : UnsupportedEnvelope)
  /-- A list that was to be put back is longer than its place allows. -/
  | overlong
  | editor (cause : ε)
deriving DecidableEq

namespace Editor

variable {σ ε : Type}

/-- Gives the editor the credentials of one entry and takes back what it leaves. -/
def onCredentials (edit : Editor σ ε) (p : Position) (i : Invocation) (c : AddressCredentials) :
    Fallible σ (EditError ε) AddressCredentials := fun state =>
  match (edit p i).run.run (c, state) with
  | (.ok (), (c', state')) => (.ok c', state')
  | (.error cause, (_, state')) => (.error (.editor cause), state')

/-- The entries of an operation after editing, and how many were edited. The
first of them has the index `entry`. -/
def onEntries (edit : Editor σ ε) (operation : Nat) :
    Nat → List AuthorizationEntry → Fallible σ (EditError ε) (List AuthorizationEntry × Nat)
  | _, [] => pure ([], 0)
  | entry, e :: rest =>
    match e.credentials with
    | .sourceAccount => do
      let (rest', n) ← onEntries edit operation (entry + 1) rest
      return (e :: rest', n)
    | .address c => do
      let c' ← edit.onCredentials ⟨operation, entry⟩ e.rootInvocation c
      let (rest', n) ← onEntries edit operation (entry + 1) rest
      return ({ e with credentials := .address c' } :: rest', n + 1)

/-- A list for a place that takes at most `max` elements. -/
def bounded {α : Type} (max : Nat) (xs : List α) : Fallible σ (EditError ε) (List α) :=
  if xs.length ≤ max then pure xs else throw .overlong

/-- An operation after editing, and how many of its entries were edited. -/
def onOperation (edit : Editor σ ε) (index : Nat) (o : Operation) :
    Fallible σ (EditError ε) (Operation × Nat) :=
  match o.body with
  | .invokeHostFunction invoke => do
    let (entries, n) ← edit.onEntries index 0 invoke.auth
    let auth ← bounded Xdr.unbounded entries
    return ({ o with body := .invokeHostFunction { invoke with auth } }, n)
  | _ => pure (o, 0)

/-- Operations after editing, and how many entries were edited. The first has the
index `index`. -/
def onOperations (edit : Editor σ ε) :
    Nat → List Operation → Fallible σ (EditError ε) (List Operation × Nat)
  | _, [] => pure ([], 0)
  | index, o :: rest => do
    let (o', n) ← edit.onOperation index o
    let (rest', m) ← onOperations edit (index + 1) rest
    return (o' :: rest', n + m)

/-- A transaction after editing, and how many entries were edited. -/
def onTransaction (edit : Editor σ ε) (t : Transaction) :
    Fallible σ (EditError ε) (Transaction × Nat) := do
  let (edited, n) ← edit.onOperations 0 t.operations
  let operations ← bounded Transaction.operationLimit edited
  return ({ t with operations }, n)

end Editor

/-- Edits every address entry of an envelope, in the order of their positions, and
gives their number. The state holds the envelope beside the editor's own state;
if a call fails, later entries are not visited and the envelope stays as it was. -/
def Envelope.edit {σ ε : Type} (edit : Editor σ ε) : Fallible (Envelope × σ) (EditError ε) Nat :=
  fun (envelope, state) =>
    match envelope.signed with
    | .error kind => (.error (.unsupported kind), (envelope, state))
    | .ok signed =>
      match (edit.onTransaction signed.transaction).run.run state with
      | (.error e, state') => (.error e, (envelope, state'))
      | (.ok (transaction, n), state') => (.ok n, (.v1 { signed with transaction }, state'))

end AuthSigner
