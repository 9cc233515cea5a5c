import AuthSigner.Ledger.Transaction

/-! Where authorization entries stand in a transaction, and which envelopes carry
a transaction whose entries can be signed. `Transaction.addressEntries` is the
list of the entries that an address authorizes, in the order in which they
stand. -/
namespace AuthSigner

/-- The place of an authorization entry: the index of its operation, and its own
index in that operation. -/
structure Position where
  operation : Nat
  entry : Nat
deriving DecidableEq

/-- How a position is told to the user. -/
def Position.describe (p : Position) : String :=
  s!"operation {p.operation} auth entry {p.entry}"

/-- An entry that an address authorizes, with its credentials and its place. -/
structure LocatedEntry where
  position : Position
  entry : AuthorizationEntry
  credentials : AddressCredentials

/-- The address entries among the entries of one operation, the first of which
has the index `entry`. -/
def addressEntriesFrom (operation : Nat) : Nat → List AuthorizationEntry → List LocatedEntry
  | _, [] => []
  | entry, e :: rest =>
    match e.credentials with
    | .sourceAccount => addressEntriesFrom operation (entry + 1) rest
    | .address credentials =>
      ⟨⟨operation, entry⟩, e, credentials⟩ :: addressEntriesFrom operation (entry + 1) rest

/-- The address entries of a transaction, by operation and then by entry. -/
def Transaction.addressEntries (t : Transaction) : List LocatedEntry :=
  t.operations.zipIdx.flatMap fun (o, i) => addressEntriesFrom i 0 o.auth

/-- The envelopes whose authorizations cannot be signed. -/
inductive UnsupportedEnvelope where
  | v0 | feeBump
deriving DecidableEq

/-- The report of an envelope of another kind than needed. -/
def UnsupportedEnvelope.message (kind : UnsupportedEnvelope) : String :=
  let name := match kind with
    | .v0 => "TxV0"
    | .feeBump => "TxFeeBump"
  s!"unsupported transaction envelope type: {name}; only v1 transaction envelopes can have their authorizations signed"

/-- The signed transaction of an envelope, if it is of the kind that carries
authorizations. -/
def Envelope.signed : Envelope → Except UnsupportedEnvelope SignedTransaction
  | .v0 _ => .error .v0
  | .v1 signed => .ok signed
  | .feeBump _ => .error .feeBump

end AuthSigner
