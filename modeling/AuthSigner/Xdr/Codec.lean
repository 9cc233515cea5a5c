import AuthSigner.Xdr.Reader

/-! Formats of values in External Data Representation. A `Codec` says in one
place how a value is written, how it is read back, and which values have a
written form at all (`Fits`: lists and byte strings within the bounds of their
types). Formats of compound values are built from those of their parts, so both
directions follow one description.

Readers of nested types are given the number of levels they may still descend.
Every level costs at least four bytes, so the length of the input is always
enough, and a reader that has used up its levels has used up its input too. -/
namespace AuthSigner.Xdr

/-- The format of a type. -/
structure Codec (α : Type) where
  /-- The canonical bytes of a value. -/
  write : α → Bytes
  /-- Reads one value, descending at most the given number of levels. -/
  read : Nat → Reader α
  /-- The value is within the bounds of the format. -/
  Fits : α → Prop

/-- The largest length the format can express. -/
def unbounded : Nat := 4294967295

/-- The written form of a length or a discriminant. -/
def count (n : Nat) : Bytes := bigEndian 4 n

namespace Codec

/-- No bytes, for the only value of its type. -/
def unit : Codec Unit where
  write _ := []
  read _ := pure ()
  Fits _ := True

/-- The same bytes for another type with the same values. -/
def imap {α β : Type} (c : Codec α) (forth : α → β) (back : β → α) : Codec β where
  write b := c.write (back b)
  read depth := forth <$> c.read depth
  Fits b := c.Fits (back b)

/-- One value after the other. -/
def pair {α β : Type} (first : Codec α) (second : Codec β) : Codec (α × β) where
  write x := first.write x.1 ++ second.write x.2
  read depth := do
    let a ← first.read depth
    let b ← second.read depth
    pure (a, b)
  Fits x := first.Fits x.1 ∧ second.Fits x.2

/-- Unsigned integers of four bytes. -/
def u32 : Codec UInt32 where
  write n := bigEndian 4 n.toNat
  read _ := UInt32.ofNat <$> Reader.number 4
  Fits _ := True

/-- Unsigned integers of eight bytes. -/
def u64 : Codec UInt64 where
  write n := bigEndian 8 n.toNat
  read _ := UInt64.ofNat <$> Reader.number 8
  Fits _ := True

/-- Signed integers of four bytes, in two's complement. -/
def i32 : Codec Int32 := u32.imap UInt32.toInt32 Int32.toUInt32

/-- Signed integers of eight bytes, in two's complement. -/
def i64 : Codec Int64 := u64.imap UInt64.toInt64 Int64.toUInt64

/-- Truth values. One is true; reading takes every other word for false, and
writing spells false as zero. -/
def bool : Codec Bool where
  write b := count (if b then 1 else 0)
  read _ := (· == 1) <$> Reader.number 4
  Fits _ := True

/-- Exactly `n` bytes, without a length, filled up with zeros. -/
def octets (n : Nat) : Codec (Octets n) where
  write x := x.toBytes ++ List.replicate (Reader.padding n) 0
  read _ := do
    let bytes ← Reader.padded n
    match Octets.ofBytes? n bytes with
    | some x => pure x
    | none => Reader.fail .truncated
  Fits _ := True

/-- At most `max` bytes: their length, the bytes, and zeros up to a multiple of
four. Strings have the same format, whatever their bytes mean. -/
def bytes (max : Nat) : Codec Bytes where
  write x := count x.length ++ (x ++ List.replicate (Reader.padding x.length) 0)
  read _ := do Reader.padded (← Reader.length max)
  Fits x := x.length ≤ max

/-- At most `max` values: their count and then each of them. -/
def list {α : Type} (max : Nat) (item : Codec α) : Codec (List α) where
  write xs := count xs.length ++ xs.flatMap item.write
  read depth := Reader.list max (item.read depth)
  Fits xs := xs.length ≤ max ∧ ∀ x ∈ xs, item.Fits x

/-- A value that may be absent. -/
def option {α : Type} (item : Codec α) : Codec (Option α) where
  write
    | none => count 0
    | some x => count 1 ++ item.write x
  read depth := Reader.option (item.read depth)
  Fits x := ∀ a ∈ x, item.Fits a

end Codec

/-- One alternative of a union: its discriminant, and the format of the values
that belong to it. -/
structure Arm (α : Type) where
  tag : Nat
  /-- The bytes after the discriminant, for a value of this alternative. -/
  write? : α → Option Bytes
  read : Nat → Reader α
  /-- The value belongs to this alternative and is within its bounds. -/
  Fits : α → Prop

namespace Arm

/-- The alternative whose values `inject` makes from those of a codec and
`project` takes apart again. -/
def of {α β : Type} (tag : Nat) (c : Codec β) (inject : β → α) (project : α → Option β) : Arm α where
  tag := tag
  write? x := (project x).map c.write
  read depth := inject <$> c.read depth
  Fits x := ∃ b, project x = some b ∧ c.Fits b

/-- The alternative of a single value, which nothing follows. -/
def void {α : Type} (tag : Nat) (value : α) (holds : α → Bool) : Arm α where
  tag := tag
  write? x := if holds x then some [] else none
  read _ := pure value
  Fits x := holds x = true

/-- An alternative of a part, as an alternative of the whole that contains it. -/
def within {α β : Type} (inject : β → α) (project : α → Option β) (arm : Arm β) : Arm α where
  tag := arm.tag
  write? x := (project x).bind arm.write?
  read depth := inject <$> arm.read depth
  Fits x := ∃ b, project x = some b ∧ arm.Fits b

end Arm

namespace Codec

/-- A discriminant and the value of the alternative it selects. A discriminant
without an alternative is invalid. -/
def union {α : Type} (arms : List (Arm α)) : Codec α where
  write x := (arms.findSome? fun arm => (arm.write? x).map (count arm.tag ++ ·)).getD []
  read depth := do
    let tag ← Reader.number 4
    match arms.find? fun arm => arm.tag == tag with
    | some arm => arm.read depth
    | none => Reader.fail .invalid
  Fits x := ∃ arm ∈ arms, arm.Fits x

/-- A union with one alternative, whose values need no constructor of their own. -/
def only {α : Type} (tag : Nat) (c : Codec α) : Codec α := union [Arm.of tag c id some]

/-- A value that is its own discriminant, numbered from zero in the order given. -/
def enumeration {α : Type} [BEq α] (values : List α) : Codec α where
  write x := count (values.idxOf x)
  read _ := do
    match values[← Reader.number 4]? with
    | some x => pure x
    | none => Reader.fail .invalid
  Fits x := x ∈ values

/-- Reads a value from the front of a byte string. -/
def readFront {α : Type} (c : Codec α) (input : Bytes) : Except ReadError (α × Bytes) :=
  (c.read input.length).run input

end Codec
end AuthSigner.Xdr
