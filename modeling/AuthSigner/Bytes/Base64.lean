import AuthSigner.Bytes.Octets

/-! Standard base64 with padding, over the bytes of its text. Writing is
canonical. Reading works group by group and stops at the first group that no
writer produces: a foreign character, padding inside the text, bits under the
padding, or a group that is cut off. What the groups before it spell is kept,
because a reader of the bytes may be satisfied, or may fail, before the damage. -/
namespace AuthSigner.Base64

/-- The padding character. -/
def pad : UInt8 := 61

/-- The character of a six-bit digit: upper case, lower case, figures, plus, slash. -/
def digit (n : Nat) : UInt8 :=
  if n < 26 then UInt8.ofNat (65 + n)
  else if n < 52 then UInt8.ofNat (71 + n)
  else if n < 62 then UInt8.ofNat (n - 4)
  else if n = 62 then 43
  else 47

/-- The six-bit digit of a character. -/
def digitValue? (c : UInt8) : Option Nat :=
  let n := c.toNat
  if 65 ≤ n ∧ n ≤ 90 then some (n - 65)
  else if 97 ≤ n ∧ n ≤ 122 then some (n - 71)
  else if 48 ≤ n ∧ n ≤ 57 then some (n + 4)
  else if n = 43 then some 62
  else if n = 47 then some 63
  else none

/-- Three bytes to a group of four characters; the last group is padded. -/
def encode : Bytes → Bytes
  | [] => []
  | [a] => [digit (a.toNat / 4), digit (a.toNat % 4 * 16), pad, pad]
  | [a, b] =>
    [digit (a.toNat / 4), digit (a.toNat % 4 * 16 + b.toNat / 16), digit (b.toNat % 16 * 4), pad]
  | a :: b :: c :: rest =>
    digit (a.toNat / 4) :: digit (a.toNat % 4 * 16 + b.toNat / 16) ::
      digit (b.toNat % 16 * 4 + c.toNat / 64) :: digit (c.toNat % 64) :: encode rest

/-- The bytes of one group: three of them, or fewer if the group is padded and
the bits under the padding are zero. -/
def group? (a b c d : UInt8) : Option Bytes := do
  let w ← digitValue? a
  let x ← digitValue? b
  let first := UInt8.ofNat (w * 4 + x / 16)
  if c = pad ∧ d = pad then
    if x % 16 = 0 then some [first] else none
  else
    let y ← digitValue? c
    let second := UInt8.ofNat (x % 16 * 16 + y / 4)
    if d = pad then
      if y % 4 = 0 then some [first, second] else none
    else
      let z ← digitValue? d
      some [first, second, UInt8.ofNat (y % 4 * 64 + z)]

/-- What a text spells before its first bad group, and whether it has none. -/
structure Spelled where
  bytes : Bytes
  /-- The text ended without a bad group. -/
  intact : Bool
deriving DecidableEq

/-- Reads the groups of a text up to the first bad one. Anything after a padded
group is bad, and so is a group of fewer than four characters. -/
def decode : Bytes → Spelled
  | [] => ⟨[], true⟩
  | a :: b :: c :: d :: rest =>
    match group? a b c d with
    | none => ⟨[], false⟩
    | some bytes =>
      if d = pad then ⟨bytes, rest.isEmpty⟩
      else
        let more := decode rest
        ⟨bytes ++ more.bytes, more.intact⟩
  | _ => ⟨[], false⟩

/-- The text of a byte string. -/
def encodeString (bytes : Bytes) : String :=
  String.ofList ((encode bytes).map fun b => Char.ofNat b.toNat)

end AuthSigner.Base64
