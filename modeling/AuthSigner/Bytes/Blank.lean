import AuthSigner.Bytes.Octets

/-! ASCII white space among bytes: space, tab, line feed, form feed and carriage
return. The vertical tab and the blanks of wider alphabets are not white space
here, so they stay in the text and spoil it. -/
namespace AuthSigner

/-- Space, tab, line feed, form feed and carriage return. -/
def isBlank (b : UInt8) : Bool := b == 32 || b == 9 || b == 10 || b == 12 || b == 13

/-- The bytes that are not white space, in order. -/
def Bytes.solid (bytes : Bytes) : Bytes := bytes.filter fun b => !isBlank b

end AuthSigner
