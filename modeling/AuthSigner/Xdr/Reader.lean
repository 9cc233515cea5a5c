import AuthSigner.Bytes.Endian

/-! Reading values from the front of a byte string. A reader gives a value and
the bytes it did not need, or the cause of its failure. `truncated` is the one
failure that more input could mend, so it is kept apart from the others. -/
namespace AuthSigner.Xdr

/-- Why no value could be read. -/
inductive ReadError where
  /-- A discriminant or a presence mark that the format does not have. -/
  | invalid
  /-- A length above the bound of its type. -/
  | lengthExceedsMax
  /-- A byte other than zero where data is filled up to four bytes. -/
  | nonZeroPadding
  /-- The input ended inside the value. -/
  | truncated
deriving DecidableEq

/-- Takes a value from the front of a byte string. -/
abbrev Reader (α : Type) := StateT Bytes (Except ReadError) α

namespace Reader

/-- Fails without regard to the input. -/
def fail {α : Type} (e : ReadError) : Reader α := fun _ => .error e

/-- Exactly the next `n` bytes. -/
def take (n : Nat) : Reader Bytes := fun input =>
  let taken := input.take n
  if taken.length = n then .ok (taken, input.drop n) else .error .truncated

/-- A number of `width` bytes, the most significant first. -/
def number (width : Nat) : Reader Nat := ofBigEndian <$> take width

/-- The count of zero bytes that fill data of length `n` up to a multiple of four. -/
def padding (n : Nat) : Nat := (4 - n % 4) % 4

/-- `n` bytes of data and the zeros after them. -/
def padded (n : Nat) : Reader Bytes := do
  let bytes ← take n
  let zeros ← take (padding n)
  if zeros.all (· == 0) then pure bytes else fail .nonZeroPadding

/-- A length that must not exceed `max`. -/
def length (max : Nat) : Reader Nat := do
  let n ← number 4
  if n ≤ max then pure n else fail .lengthExceedsMax

/-- `count` values, one after the other. Nothing is set aside for them ahead of
reading, so a count that the input cannot back costs nothing. -/
def times {α : Type} (item : Reader α) : Nat → Reader (List α)
  | 0 => pure []
  | count + 1 => do
    let first ← item
    let rest ← times item count
    pure (first :: rest)

/-- A counted list of at most `max` values. -/
def list {α : Type} (max : Nat) (item : Reader α) : Reader (List α) := do
  times item (← length max)

/-- A presence mark, 0 or 1, and the value if the mark is 1. -/
def option {α : Type} (item : Reader α) : Reader (Option α) := do
  match ← number 4 with
  | 0 => pure none
  | 1 => some <$> item
  | _ => fail .invalid

end Reader
end AuthSigner.Xdr
