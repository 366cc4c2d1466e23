import AccountSecurity.Number.Double
import AccountSecurity.Text.Integer

/-!
# Decimals of doubles

* `Double.decimal` : the decimal of the fewest digits that is read as a double, of two the nearer one;
* `Decimal.text` : a decimal with a point, or with an exponent if it is very large or very small;
* `Double.text` : the decimal of a double as a text.
-/

namespace AccountSecurity

/-- The number `digits · 10 ^ shift`. -/
structure Decimal where
  digits : Nat
  shift : Int
deriving DecidableEq, Repr

namespace Double

/-- The quotient of whole numbers that a double is. -/
def fraction (x : Double) : Nat × Nat := (x.mantissa * Nat.pow 2 x.exponent.toNat, Nat.pow 2 (-x.exponent).toNat)

/-- The two are the same number. -/
def sameValue (x y : Double) : Bool := x.fraction.1 * y.fraction.2 == y.fraction.1 * x.fraction.2

/-- The double that a decimal is read as. -/
def ofDecimal (d : Decimal) : Double := nearest (d.digits * Nat.pow 10 d.shift.toNat) (Nat.pow 10 (-d.shift).toNat)

/-- The number of digits in front of the point; below zero, the number of zeros behind it. -/
def magnitude (x : Double) : Int :=
  let (n, d) := x.fraction
  let m : Int := (Text.decimal n).length - (Text.decimal d).length
  if d * Nat.pow 10 m.toNat ≤ n * Nat.pow 10 (-m).toNat then m + 1 else m

/-- The decimal of some number of digits that is read as the double. Only the two that enclose it can be, and
the nearer one goes first. -/
def decimalOf? (x : Double) (count : Nat) : Option Decimal :=
  let shift := x.magnitude - count
  let n := x.fraction.1 * Nat.pow 10 (-shift).toNat
  let d := x.fraction.2 * Nat.pow 10 shift.toNat
  let nearer := roundedQuotient n d
  let other := if nearer = n / d then n / d + 1 else n / d
  [Decimal.mk nearer shift, Decimal.mk other shift].find? fun c => (ofDecimal c).sameValue x

/-- Any double is told from all others by this many digits. -/
def enoughDigits : Nat := 17

/-- The decimal of the fewest digits that is read as the double. -/
def decimal (x : Double) : Decimal :=
  ((List.range' 1 enoughDigits).findSome? x.decimalOf?).getD ⟨0, 0⟩

end Double

namespace Decimal

/-- Up to this many digits are written in front of the point. -/
def maxWhole : Int := 16

/-- Up to this many zeros are written behind the point before the first digit. -/
def maxZeros : Int := 3

/-- An exponent, with a sign and at least two digits. -/
def exponentText (e : Int) : List Char := 'e' :: (if e < 0 then '-' else '+') :: Text.padded 2 e.natAbs

/-- A decimal with a point, or with an exponent. -/
def chars (d : Decimal) : List Char :=
  let all := Text.decimal d.digits
  let point : Int := all.length + d.shift
  let digits := (all.reverse.dropWhile (· == '0')).reverse
  if d.digits = 0 then ['0', '.', '0']
  else if point < -maxZeros ∨ maxWhole < point then
    let rest := digits.drop 1
    digits.take 1 ++ (if rest.isEmpty then [] else '.' :: rest) ++ exponentText (point - 1)
  else if point ≤ 0 then '0' :: '.' :: List.replicate (-point).toNat '0' ++ digits
  else
    let whole := digits.take point.toNat
    let rest := digits.drop point.toNat
    whole ++ List.replicate (point.toNat - whole.length) '0' ++
      '.' :: (if rest.isEmpty then ['0'] else rest)

/-- The text of a decimal. -/
def text (d : Decimal) : String := String.ofList d.chars

end Decimal

/-- A double as the decimal of the fewest digits. -/
def Double.text (x : Double) : String := x.decimal.text

end AccountSecurity
