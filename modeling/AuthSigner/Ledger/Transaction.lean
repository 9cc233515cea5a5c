import AuthSigner.Ledger.Operation

/-! Transactions, and the envelopes that carry them with their signatures. -/
namespace AuthSigner
open Xdr

structure TimeBounds where
  minTime : UInt64
  maxTime : UInt64
deriving DecidableEq

def TimeBounds.codec : Codec TimeBounds :=
  (Codec.u64.pair .u64).imap (fun (lo, hi) => ⟨lo, hi⟩) fun b => (b.minTime, b.maxTime)

inductive Memo where
  | none
  | text (text : Bytes)
  | id (id : UInt64)
  | hash (hash : Hash)
  | returnHash (hash : Hash)
deriving DecidableEq

def Memo.codec : Codec Memo := .union [
  .void 0 .none fun | .none => true | _ => false,
  .of 1 (.bytes 28) .text fun | .text t => some t | _ => Option.none,
  .of 2 .u64 .id fun | .id n => some n | _ => Option.none,
  .of 3 Hash.codec .hash fun | .hash h => some h | _ => Option.none,
  .of 4 Hash.codec .returnHash fun | .returnHash h => some h | _ => Option.none]

structure LedgerBounds where
  minLedger : UInt32
  maxLedger : UInt32
deriving DecidableEq

def LedgerBounds.codec : Codec LedgerBounds :=
  (Codec.u32.pair .u32).imap (fun (lo, hi) => ⟨lo, hi⟩) fun b => (b.minLedger, b.maxLedger)

/-- The full set of conditions under which a transaction is valid. -/
structure GeneralPreconditions where
  timeBounds : Option TimeBounds
  ledgerBounds : Option LedgerBounds
  minSequence : Option Int64
  minSequenceAge : UInt64
  minSequenceLedgerGap : UInt32
  extraSigners : List SignerKey
deriving DecidableEq

def GeneralPreconditions.codec : Codec GeneralPreconditions :=
  (Codec.option TimeBounds.codec |>.pair <| Codec.option LedgerBounds.codec |>.pair <|
    Codec.option .i64 |>.pair <| Codec.u64.pair <| Codec.u32.pair <|
    Codec.list 2 SignerKey.codec).imap
    (fun (time, ledger, sequence, age, gap, signers) => ⟨time, ledger, sequence, age, gap, signers⟩)
    fun p => (p.timeBounds, p.ledgerBounds, p.minSequence, p.minSequenceAge,
      p.minSequenceLedgerGap, p.extraSigners)

inductive Preconditions where
  | none
  | time (bounds : TimeBounds)
  | general (conditions : GeneralPreconditions)
deriving DecidableEq

def Preconditions.codec : Codec Preconditions := .union [
  .void 0 .none fun | .none => true | _ => false,
  .of 1 TimeBounds.codec .time fun | .time b => some b | _ => Option.none,
  .of 2 GeneralPreconditions.codec .general fun | .general p => some p | _ => Option.none]

/-- The ledger entries a transaction reads only, and those it also writes. -/
structure Footprint where
  readOnly : List LedgerKey
  readWrite : List LedgerKey

def Footprint.codec : Codec Footprint :=
  (Codec.pair (.list unbounded LedgerKey.codec) (.list unbounded LedgerKey.codec)).imap
    (fun (r, w) => ⟨r, w⟩) fun f => (f.readOnly, f.readWrite)

/-- What running a transaction's contracts may cost. -/
structure Resources where
  footprint : Footprint
  instructions : UInt32
  diskReadBytes : UInt32
  writeBytes : UInt32

def Resources.codec : Codec Resources :=
  (Footprint.codec.pair (Codec.u32.pair (Codec.u32.pair .u32))).imap (fun (f, i, r, w) => ⟨f, i, r, w⟩)
    fun r => (r.footprint, r.instructions, r.diskReadBytes, r.writeBytes)

/-- The resources of a transaction that runs contracts, the archived entries it
restores, and the fee for them. -/
structure ResourceData where
  archivedEntries : Option (List UInt32)
  resources : Resources
  resourceFee : Int64

def ResourceData.codec : Codec ResourceData :=
  (Codec.pair (.option (.list unbounded .u32)) (Resources.codec.pair .i64)).imap
    (fun (a, r, fee) => ⟨a, r, fee⟩) fun d => (d.archivedEntries, d.resources, d.resourceFee)

/-- How many operations a transaction may have. -/
def Transaction.operationLimit : Nat := 100

structure Transaction where
  sourceAccount : MuxedAccount
  fee : UInt32
  sequence : Int64
  preconditions : Preconditions
  memo : Memo
  operations : List Operation
  resourceData : Option ResourceData

def Transaction.codec : Codec Transaction :=
  (MuxedAccount.codec.pair <| Codec.u32.pair <| Codec.i64.pair <| Preconditions.codec.pair <|
    Memo.codec.pair <| Codec.list Transaction.operationLimit Operation.codec |>.pair <|
    Codec.option ResourceData.codec).imap
    (fun (source, fee, sequence, conditions, memo, operations, data) =>
      ⟨source, fee, sequence, conditions, memo, operations, data⟩)
    fun t => (t.sourceAccount, t.fee, t.sequence, t.preconditions, t.memo, t.operations, t.resourceData)

/-- A signature of a transaction, and the end of the key that made it. -/
structure DecoratedSignature where
  hint : Octets 4
  signature : Bytes
deriving DecidableEq

def DecoratedSignature.codec : Codec DecoratedSignature :=
  (Codec.pair (.octets 4) (.bytes 64)).imap (fun (h, s) => ⟨h, s⟩) fun d => (d.hint, d.signature)

/-- A transaction and its signatures. -/
structure SignedTransaction where
  transaction : Transaction
  signatures : List DecoratedSignature

def SignedTransaction.codec : Codec SignedTransaction :=
  (Transaction.codec.pair (.list 20 DecoratedSignature.codec)).imap (fun (t, s) => ⟨t, s⟩)
    fun e => (e.transaction, e.signatures)

/-- A transaction of the first format, whose source cannot be shared. -/
structure TransactionV0 where
  sourceAccount : Octets 32
  fee : UInt32
  sequence : Int64
  timeBounds : Option TimeBounds
  memo : Memo
  operations : List Operation

def TransactionV0.codec : Codec TransactionV0 :=
  (Codec.octets 32 |>.pair <| Codec.u32.pair <| Codec.i64.pair <|
    Codec.option TimeBounds.codec |>.pair <| Memo.codec.pair <|
    Codec.list Transaction.operationLimit Operation.codec |>.pair extensionPoint).imap
    (fun (source, fee, sequence, bounds, memo, operations, _) =>
      ⟨source, fee, sequence, bounds, memo, operations⟩)
    fun t => (t.sourceAccount, t.fee, t.sequence, t.timeBounds, t.memo, t.operations, ())

structure SignedTransactionV0 where
  transaction : TransactionV0
  signatures : List DecoratedSignature

def SignedTransactionV0.codec : Codec SignedTransactionV0 :=
  (TransactionV0.codec.pair (.list 20 DecoratedSignature.codec)).imap (fun (t, s) => ⟨t, s⟩)
    fun e => (e.transaction, e.signatures)

/-- A signed transaction for which another account pays a higher fee. -/
structure FeeBump where
  feeSource : MuxedAccount
  fee : Int64
  inner : SignedTransaction
  signatures : List DecoratedSignature

def FeeBump.codec : Codec FeeBump :=
  (MuxedAccount.codec.pair <| Codec.i64.pair <| Codec.only 2 SignedTransaction.codec |>.pair <|
    extensionPoint.pair <| Codec.list 20 DecoratedSignature.codec).imap
    (fun (source, fee, inner, _, signatures) => ⟨source, fee, inner, signatures⟩)
    fun b => (b.feeSource, b.fee, b.inner, (), b.signatures)

/-- What is sent to the network. -/
inductive Envelope where
  | v0 (signed : SignedTransactionV0)
  | v1 (signed : SignedTransaction)
  | feeBump (bump : FeeBump)

def Envelope.codec : Codec Envelope := .union [
  .of 0 SignedTransactionV0.codec .v0 fun | .v0 e => some e | _ => none,
  .of 2 SignedTransaction.codec .v1 fun | .v1 e => some e | _ => none,
  .of 5 FeeBump.codec .feeBump fun | .feeBump e => some e | _ => none]

end AuthSigner
