import AuthSigner.Bytes.Base64
import AuthSigner.Bytes.Blank
import AuthSigner.Xdr.Codec

/-! Values as text: the base64 of their bytes, with ASCII white space anywhere.
The text is decoded only as far as the value needs it. So what is wrong with the
bytes before the first bad group is reported rather than the group, and a bad
group is reported only if the value needs more bytes, or if nothing but the bad
group is left after it. -/
namespace AuthSigner.Xdr

/-- Why a text is not the text of a value. -/
inductive DecodeError where
  /-- A discriminant or presence mark that the format does not have, or bytes
  after the value. -/
  | invalid
  | lengthExceedsMax
  | nonZeroPadding
  /-- The text ends inside the value. -/
  | unexpectedEnd
  /-- The text is not base64. -/
  | malformedText
deriving DecidableEq

/-- The report of a failure. What is wrong with the base64 is not told. -/
def DecodeError.message : DecodeError → String
  | .invalid => "xdr value invalid"
  | .lengthExceedsMax => "xdr value max length exceeded"
  | .nonZeroPadding => "xdr padding contains non-zero bytes"
  | .unexpectedEnd => "failed to fill whole buffer"
  | .malformedText => "<base64>"

/-- A failure to read bytes, as a failure of the text that spells them. -/
def ReadError.ofText (intact : Bool) : ReadError → DecodeError
  | .invalid => .invalid
  | .lengthExceedsMax => .lengthExceedsMax
  | .nonZeroPadding => .nonZeroPadding
  | .truncated => if intact then .unexpectedEnd else .malformedText

namespace Codec

/-- The text of a value. -/
def toText {α : Type} (c : Codec α) (x : α) : Bytes := Base64.encode (c.write x)

/-- The value that a text spells. -/
def ofText {α : Type} (c : Codec α) (text : Bytes) : Except DecodeError α :=
  let spelled := Base64.decode text.solid
  match c.readFront spelled.bytes with
  | .error e => .error (e.ofText spelled.intact)
  | .ok (x, rest) =>
    if !rest.isEmpty then .error .invalid
    else if spelled.intact then .ok x
    else .error .malformedText

/-- The text of a value as a string. -/
def toString {α : Type} (c : Codec α) (x : α) : String := Base64.encodeString (c.write x)

end Codec
end AuthSigner.Xdr
