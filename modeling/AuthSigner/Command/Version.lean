/-! The version of the program. -/
namespace AuthSigner.Version

/-- The version in one line. -/
def short : String := "0.1.0"

/-- The version, and the version of the formats that envelopes are read in, each on
a line. -/
def long : List String := [short, "stellar-xdr 23.0.0 (e83a6337204ecfdb0ac0d44ffb857130c1249b1b)"]

end AuthSigner.Version
