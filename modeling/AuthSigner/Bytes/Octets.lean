/-! Byte strings: `Bytes` of any length, and `Octets n`, which carry the proof
that there are exactly `n` of them. Keys, hashes and signatures are `Octets`, so
a wrong length is a fact about reading, not about anything that happens later. -/
namespace AuthSigner

/-- A byte string. -/
abbrev Bytes := List UInt8

/-- The bytes of a text in UTF-8. -/
def Bytes.ofString (text : String) : Bytes := text.toUTF8.data.toList

/-- The text that bytes are in UTF-8, if they are one. -/
def Bytes.toString? (bytes : Bytes) : Option String := String.fromUTF8? ⟨bytes.toArray⟩

/-- A byte string of exactly `n` bytes. -/
@[ext] structure Octets (n : Nat) where
  /-- The bytes in order. -/
  toBytes : Bytes
  length_toBytes : toBytes.length = n
deriving DecidableEq

namespace Octets

/-- The bytes as `Octets n`, if there are exactly `n`. -/
def ofBytes? (n : Nat) (bytes : Bytes) : Option (Octets n) :=
  if h : bytes.length = n then some ⟨bytes, h⟩ else none

/-- `n` zero bytes. -/
def zero (n : Nat) : Octets n := ⟨List.replicate n 0, List.length_replicate⟩

instance {n : Nat} : Inhabited (Octets n) := ⟨zero n⟩

@[simp] theorem ofBytes?_toBytes {n : Nat} (x : Octets n) : ofBytes? n x.toBytes = some x := by
  simp [ofBytes?, x.length_toBytes]

theorem ofBytes?_eq_some_iff {n : Nat} {bytes : Bytes} {x : Octets n} :
    ofBytes? n bytes = some x ↔ x.toBytes = bytes := by
  constructor
  · intro h
    unfold ofBytes? at h
    split at h
    · cases h; rfl
    · cases h
  · rintro rfl
    exact ofBytes?_toBytes x

end Octets
end AuthSigner
