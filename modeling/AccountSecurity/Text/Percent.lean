import AccountSecurity.Text.CharSet

/-!
# Percent encoding

`percentEncode keep s` writes the UTF-8 bytes of `s` with every byte but the unreserved ones and those
in `keep` as a percent sign and two upper-case hexadecimal digits.
-/

namespace AccountSecurity.Text

/-- Letters, digits and the four marks that are never encoded. -/
def isUnreserved (c : Char) : Bool := c.isAlphanum || c == '-' || c == '.' || c == '_' || c == '~'

/-- A percent sign and the two hexadecimal digits of a byte. -/
def percentByte (b : UInt8) : List Char := '%' :: (hexDigits 2 b.toNat).map Char.toUpper

/-- The encoding of one byte. -/
def encodeByte (keep : List Char) (b : UInt8) : List Char :=
  let c := Char.ofNat b.toNat
  if b < 0x80 ∧ (isUnreserved c ∨ c ∈ keep) then [c] else percentByte b

/-- The UTF-8 bytes of a text, encoded but for the unreserved characters and those in `keep`. -/
def percentEncode (keep : List Char) (s : String) : String :=
  String.ofList (s.toUTF8.toList.flatMap (encodeByte keep))

end AccountSecurity.Text
