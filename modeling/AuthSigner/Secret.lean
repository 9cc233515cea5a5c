import AuthSigner.Bytes.Hex
import AuthSigner.StrKey
import AuthSigner.Text.WhiteSpace

/-! The secret seed of a key, as the user gives it: as the text of a key, or as
hexadecimal digits, with white space around either. -/
namespace AuthSigner

/-- An ed25519 seed. -/
structure Secret where
  seed : Octets 32
deriving DecidableEq

/-- The text was neither. -/
inductive SecretError where
  | invalidSecretKey
deriving DecidableEq

def SecretError.message : SecretError → String
  | .invalidSecretKey => "cannot parse secret key: expected a 32-byte ed25519 seed hex-encoded or a Stellar secret key (S...)"

namespace Secret

/-- The seed of a text without white space around it. -/
def ofTrimmed? (text : String) : Option Secret :=
  (do return ⟨← Octets.ofBytes? 32 (← StrKey.decode? .seed text)⟩) <|>
  (do return ⟨← Octets.ofBytes? 32 (← Hex.decode? text)⟩)

/-- The seed that a text gives. -/
def parse (text : String) : Except SecretError Secret :=
  match ofTrimmed? (Text.trim text) with
  | some secret => .ok secret
  | none => .error .invalidSecretKey

/-- How a secret shows in reports: not at all. -/
def veiled (_ : Secret) : String := "Secret(..)"

/-- What is left of a secret once it is wiped. -/
def wiped (_ : Secret) : Secret := ⟨.zero 32⟩

end Secret
end AuthSigner
