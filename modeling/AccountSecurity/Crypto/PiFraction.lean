/-!
# The binary digits of π

The block cipher starts from the fraction of π. It is computed by Machin's formula,
`π = 16 arctan (1/5) - 4 arctan (1/239)`, in fixed-point numbers with spare bits at the end.
-/

namespace AccountSecurity.PiFraction

/-- The alternating series of `arctan (1 / root square)` from the term `power / n` on. -/
def series (square : Nat) : (terms : Nat) → (power n : Nat) → Nat
  | 0, _, _ => 0
  | terms + 1, power, n =>
    if power = 0 then 0 else power / n - series square terms (power / square) (n + 2)

/-- `2 ^ bits · arctan (1 / x)`, up to rounding. -/
def arctanInverse (bits x : Nat) : Nat := series (x * x) bits (Nat.pow 2 bits / x) 1

/-- `2 ^ bits · π`, up to rounding. -/
def scaledPi (bits : Nat) : Nat := 16 * arctanInverse bits 5 - 4 * arctanInverse bits 239

/-- The first `count` words of the fraction of π. -/
def words (count : Nat) : Array UInt32 :=
  let spare := 64
  let pi := scaledPi (32 * count + spare)
  ((List.range count).map fun i => UInt32.ofNat (pi >>> (spare + 32 * (count - 1 - i)))).toArray

end AccountSecurity.PiFraction
