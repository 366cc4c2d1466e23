/-!
# Rounding to double precision

* `Double.nearest n d` : the number of at most 53 significant bits that lies nearest to `n / d`, of two
  equally near ones the one with an even last bit;
* `Double.divide` : a quotient by a whole number, rounded in the same way;
* `Double.ceiling` : the least whole number that is not below;
* `Double.floor` : the greatest whole number that is not above.

The exponents of double precision are unbounded here: no quotient of whole numbers that are written
down reaches either end of their range.
-/

namespace AccountSecurity

/-- The number `mantissa · 2 ^ exponent`. -/
structure Double where
  mantissa : Nat
  exponent : Int
deriving DecidableEq, Repr

namespace Double

/-- The quotient rounded to the nearest whole number, a half to the even one. -/
def roundedQuotient (n d : Nat) : Nat :=
  let q := n / d
  let twice := 2 * (n % d)
  if twice < d ∨ (twice = d ∧ q % 2 = 0) then q else q + 1

/-- The quotient `n / (d · 2 ^ e)` as a fraction of whole numbers. -/
def scaled (n d : Nat) (e : Int) : Nat × Nat := (n * Nat.pow 2 (-e).toNat, d * Nat.pow 2 e.toNat)

/-- The exponent under which `n / d` has a mantissa of 53 bits. -/
def exponentOf (n d : Nat) : Int :=
  let e : Int := (n.log2 : Int) - d.log2 - 52
  let (a, b) := scaled n d e
  if a < b * Nat.pow 2 52 then e - 1 else e

/-- The double nearest to `n / d`. -/
def nearest (n d : Nat) : Double :=
  let e := exponentOf n d
  let (a, b) := scaled n d e
  ⟨roundedQuotient a b, e⟩

/-- The double nearest to a quotient by a whole number. -/
def divide (x : Double) (d : Nat) : Double :=
  nearest (x.mantissa * Nat.pow 2 x.exponent.toNat) (d * Nat.pow 2 (-x.exponent).toNat)

/-- The least whole number that is not below. -/
def ceiling (x : Double) : Nat :=
  let scale := Nat.pow 2 (-x.exponent).toNat
  (x.mantissa * Nat.pow 2 x.exponent.toNat + (scale - 1)) / scale

/-- The greatest whole number that is not above. -/
def floor (x : Double) : Nat := x.mantissa * Nat.pow 2 x.exponent.toNat / Nat.pow 2 (-x.exponent).toNat

end Double

end AccountSecurity
