/-!
# Base 32

Shared secrets are written in groups of five bits over `A`–`Z` and `2`–`7`.

* `Base32.alphabet` : the 32 digits;
* `Base32.padded` : a text with `=` up to a multiple of eight characters;
* `Base32.decode` : the bytes of a padded text, in either case, or why it has none.
-/

namespace AccountSecurity.Base32

/-- The 32 digits, in the order of their values. -/
def alphabet : List Char := "ABCDEFGHIJKLMNOPQRSTUVWXYZ234567".toList

/-- Why a text is not read. -/
inductive Problem where
  | notAscii
  | badDigit
  | badPadding
deriving DecidableEq, Repr

/-- The text with padding up to a multiple of eight characters. -/
def padded (s : List Char) : List Char := s ++ List.replicate ((8 - s.length % 8) % 8) '='

/-- The value of a digit in either case. -/
def value? (c : Char) : Option Nat := alphabet.findIdx? (· == c.toUpper)

/-- The values of digits, in order; `none` if one is not a digit. -/
def values? (s : List Char) : Option (List Nat) := s.mapM value?

/-- The bits of a number, highest first. -/
def bits (width n : Nat) : List Bool := (List.range width).reverse.map n.testBit

/-- The number that bits write, highest first. -/
def ofBits (bs : List Bool) : Nat := bs.foldl (fun n b => 2 * n + b.toNat) 0

/-- The whole bytes in a list of bits. -/
def bytesOfBits : List Bool → List UInt8
  | a :: b :: c :: d :: e :: f :: g :: h :: rest =>
    UInt8.ofNat (ofBits [a, b, c, d, e, f, g, h]) :: bytesOfBits rest
  | _ => []

/-- The text without the padding at its end. -/
def unpadded (s : List Char) : List Char := (s.reverse.dropWhile (· == '=')).reverse

/-- How many characters of padding a group of eight may have. -/
def isPaddingLength (n : Nat) : Bool := n == 0 || n == 1 || n == 3 || n == 4 || n == 6

/-- Decodes a text of a multiple of eight characters. A bad digit is found before bad padding. -/
def decode (s : List Char) : Except Problem (List UInt8) :=
  if s.any (0x80 ≤ ·.toNat) then .error .notAscii
  else if s.length % 8 ≠ 0 then .error .badPadding
  else
    let body := unpadded s
    match values? body with
    | none => .error .badDigit
    | some values =>
      if isPaddingLength (s.length - body.length) then
        .ok (bytesOfBits (values.flatMap (bits 5)))
      else .error .badPadding

end AccountSecurity.Base32
