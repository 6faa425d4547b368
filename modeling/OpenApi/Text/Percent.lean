/-!
# Percent-encoding

Every byte of a text's encoding that is not a letter, a digit or one of `-_.~` becomes a percent
sign with two capital hexadecimal digits.
-/

namespace OpenApi.Text

/-- A byte that stands for itself. -/
def isUnreserved (b : UInt8) : Bool :=
  let c := Char.ofNat b.toNat
  c.isAlphanum || c == '-' || c == '_' || c == '.' || c == '~'

def capitalHexDigit (n : Nat) : Char :=
  "0123456789ABCDEF".toList.getD n '0'

def percentByte (b : UInt8) : List Char :=
  if isUnreserved b then [Char.ofNat b.toNat]
  else ['%', capitalHexDigit (b.toNat / 16), capitalHexDigit (b.toNat % 16)]

def percentEncode (s : String) : String :=
  String.ofList (s.toList.flatMap fun c => (String.utf8EncodeChar c).flatMap percentByte)

end OpenApi.Text
