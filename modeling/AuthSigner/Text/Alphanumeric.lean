import AuthSigner.Text.AlphanumericTable
import AuthSigner.Text.Lowercase

/-! Letters and digits, in every script. -/
namespace AuthSigner.Text

/-- The character is a letter, or numbers something. -/
def isAlphanumeric (c : Char) : Bool := inRanges alphanumericRanges c

end AuthSigner.Text
