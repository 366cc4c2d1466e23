/-!
# Base 64

The encoding of bytes by groups of six bits, without padding, over any alphabet of 64 characters.
Decoding refuses characters outside the alphabet, a single left-over character and left-over bits that
are not zero, so a text is decoded only if it is what encoding writes.
-/

namespace AccountSecurity.Base64

/-- The standard alphabet. -/
def standard : List Char := "ABCDEFGHIJKLMNOPQRSTUVWXYZabcdefghijklmnopqrstuvwxyz0123456789+/".toList

/-- The character of a group of six bits. -/
def digit (alphabet : List Char) (value : Nat) : Char := alphabet.getD (value % 64) 'A'

/-- Writes three bytes as four characters, and one or two as two or three. -/
def encode (alphabet : List Char) : List UInt8 → List Char
  | [] => []
  | [a] =>
    let n := a.toNat * 16
    [digit alphabet (n / 64), digit alphabet n]
  | [a, b] =>
    let n := (a.toNat * 256 + b.toNat) * 4
    [digit alphabet (n / 4096), digit alphabet (n / 64), digit alphabet n]
  | a :: b :: c :: rest =>
    let n := (a.toNat * 256 + b.toNat) * 256 + c.toNat
    digit alphabet (n / 262144) :: digit alphabet (n / 4096) :: digit alphabet (n / 64) ::
      digit alphabet n :: encode alphabet rest

/-- The value of a character of the alphabet. -/
def value? (alphabet : List Char) (c : Char) : Option Nat := alphabet.findIdx? (· == c)

/-- The byte of eight bits, the highest ones of a larger number left out. -/
def byte (n : Nat) : UInt8 := UInt8.ofNat n

/-- Reads what `encode` writes, and nothing else. -/
def decode? (alphabet : List Char) : List Char → Option (List UInt8)
  | [] => some []
  | [_] => none
  | [a, b] => do
    let n := (← value? alphabet a) * 64 + (← value? alphabet b)
    if n % 16 = 0 then return [byte (n / 16)] else none
  | [a, b, c] => do
    let n := ((← value? alphabet a) * 64 + (← value? alphabet b)) * 64 + (← value? alphabet c)
    if n % 4 = 0 then return [byte (n / 1024), byte (n / 4)] else none
  | a :: b :: c :: d :: rest => do
    let n := (((← value? alphabet a) * 64 + (← value? alphabet b)) * 64 + (← value? alphabet c)) * 64 +
      (← value? alphabet d)
    return byte (n / 65536) :: byte (n / 256) :: byte n :: (← decode? alphabet rest)

end AccountSecurity.Base64
