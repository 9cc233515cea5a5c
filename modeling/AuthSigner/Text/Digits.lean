/-! Numbers in decimal digits. -/
namespace AuthSigner.Text

/-- The number that digits spell, after one that is already read. -/
def digitsFrom (read : Nat) : List Char → Option Nat
  | [] => some read
  | c :: rest => if c.isDigit then digitsFrom (10 * read + (c.toNat - '0'.toNat)) rest else none

/-- The number that a text of one or more ASCII digits spells. -/
def natural? (text : List Char) : Option Nat := if text.isEmpty then none else digitsFrom 0 text

end AuthSigner.Text
