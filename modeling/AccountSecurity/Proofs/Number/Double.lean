import AccountSecurity.Number.Double
import Mathlib.Algebra.Group.Nat.Defs

/-!
# Rounding keeps to whole numbers

* `Double.le_roundedQuotient`, `Double.roundedQuotient_le` : a rounded quotient does not pass a whole number;
* `Double.exponentOf_le_zero` : quotients below a bound have no more whole digits than they are given;
* `Double.le_floor_nearest`, `Double.floor_nearest_le` : nor does the double nearest to a quotient pass one;
* `Double.exponentOf_le`, `Double.floor_nearest_lt` : it does not even reach one that is far enough from the quotient.
-/

namespace AccountSecurity.Double

/-- Rounding does not go below a whole number. -/
theorem le_roundedQuotient {n d k : Nat} (hd : 0 < d) (h : k * d ≤ n) : k ≤ roundedQuotient n d := by
  have hk : k ≤ n / d := (Nat.le_div_iff_mul_le hd).2 h
  unfold roundedQuotient
  dsimp only
  split
  · exact hk
  · exact Nat.le_succ_of_le hk

/-- Rounding does not go above a whole number. -/
theorem roundedQuotient_le {n d k : Nat} (hd : 0 < d) (h : n ≤ k * d) : roundedQuotient n d ≤ k := by
  have hk : n / d ≤ k := Nat.div_le_of_le_mul (by rwa [Nat.mul_comm])
  unfold roundedQuotient
  dsimp only
  split
  · exact hk
  · next hup =>
    refine Nat.lt_of_le_of_ne hk fun he => hup (.inl ?_)
    -- a quotient that is `k` itself has no remainder
    have hdiv := Nat.div_add_mod n d
    rw [he, Nat.mul_comm] at hdiv
    omega

/-- Rounding is off by no more than a half. -/
theorem two_mul_roundedQuotient_le (n d : Nat) : 2 * (roundedQuotient n d * d) ≤ 2 * n + d := by
  have hdiv := Nat.div_add_mod n d
  rw [Nat.mul_comm] at hdiv
  unfold roundedQuotient
  dsimp only
  split
  · omega
  · next hup =>
    have hhalf : d ≤ 2 * (n % d) := Nat.le_of_not_lt fun hlt => hup (.inl hlt)
    rw [Nat.succ_mul (n / d)]
    omega

/-- Quotients below a bound have all the whole digits that they need. -/
theorem exponentOf_le_zero {n d : Nat} (h : n < 2 ^ (d.log2 + 53)) : exponentOf n d ≤ 0 := by
  have hlog : n.log2 < d.log2 + 53 := by
    by_cases hn : n = 0
    · subst hn
      rw [Nat.log2_zero]
      omega
    · exact (Nat.log2_lt hn).2 h
  unfold exponentOf
  dsimp only
  split <;> omega

/-- Quotients below a power of two have mantissas with a digit to spare for each power that is left. -/
theorem exponentOf_le {n d m : Nat} (h : n < 2 ^ m * d) (hm : m ≤ 52) : exponentOf n d ≤ (m : Int) - 53 := by
  have hlog : n.log2 ≤ d.log2 + m := by
    by_cases hn : n = 0
    · subst hn
      rw [Nat.log2_zero]
      omega
    · refine Nat.le_of_lt_succ ((Nat.log2_lt hn).2 ?_)
      calc n < 2 ^ m * d := h
        _ ≤ 2 ^ m * 2 ^ (d.log2 + 1) := Nat.mul_le_mul_left _ (Nat.le_of_lt Nat.lt_log2_self)
        _ = 2 ^ (d.log2 + m + 1) := by rw [← Nat.pow_add, Nat.add_left_comm, Nat.add_assoc]
  unfold exponentOf scaled
  dsimp only
  split
  · omega
  · next hlarge =>
    refine Int.le_of_not_gt fun hgt => hlarge ?_
    -- the exponent is the greatest one that the logarithms allow, and too great
    obtain ⟨he, hzero⟩ : (-((n.log2 : Int) - d.log2 - 52)).toNat = 52 - m ∧ ((n.log2 : Int) - d.log2 - 52).toNat = 0 := by
      omega
    rw [he, hzero]
    show n * 2 ^ (52 - m) < d * 1 * 2 ^ 52
    calc n * 2 ^ (52 - m) < 2 ^ m * d * 2 ^ (52 - m) := Nat.mul_lt_mul_of_pos_right h (Nat.two_pow_pos _)
      _ = d * 1 * 2 ^ (m + (52 - m)) := by rw [Nat.mul_one, Nat.mul_comm (2 ^ m), Nat.mul_assoc, ← Nat.pow_add]
      _ = d * 1 * 2 ^ 52 := by rw [Nat.add_sub_cancel' hm]

/-- A double without whole digits to spare is a fraction of a power of two. -/
theorem floor_nearest_of_exponentOf {n d : Nat} (he : exponentOf n d ≤ 0) :
    (nearest n d).floor =
      roundedQuotient (n * Nat.pow 2 (-exponentOf n d).toNat) d / Nat.pow 2 (-exponentOf n d).toNat := by
  have hzero : (exponentOf n d).toNat = 0 := Int.toNat_of_nonpos he
  unfold floor nearest scaled
  dsimp only
  rw [hzero]
  show roundedQuotient _ (d * 1) * 1 / _ = _
  rw [Nat.mul_one, Nat.mul_one]

section
variable {n d k : Nat} (hn : n < 2 ^ (d.log2 + 53))
include hn

theorem floor_nearest_eq : ∃ scale, 0 < scale ∧ (nearest n d).floor = roundedQuotient (n * scale) d / scale :=
  ⟨_, Nat.pow_pos (by decide), floor_nearest_of_exponentOf (exponentOf_le_zero hn)⟩

theorem le_floor_nearest (hd : 0 < d) (h : k * d ≤ n) : k ≤ (nearest n d).floor := by
  obtain ⟨scale, hs, hf⟩ := floor_nearest_eq hn
  rw [hf, Nat.le_div_iff_mul_le hs]
  refine le_roundedQuotient hd ?_
  calc k * scale * d = k * d * scale := Nat.mul_right_comm ..
    _ ≤ n * scale := Nat.mul_le_mul_right scale h

theorem floor_nearest_le (hd : 0 < d) (h : n ≤ k * d) : (nearest n d).floor ≤ k := by
  obtain ⟨scale, hs, hf⟩ := floor_nearest_eq hn
  have hround : roundedQuotient (n * scale) d ≤ scale * k := by
    refine roundedQuotient_le hd ?_
    calc n * scale ≤ k * d * scale := Nat.mul_le_mul_right scale h
      _ = scale * k * d := by rw [Nat.mul_right_comm, Nat.mul_comm k scale]
  rw [hf]
  exact Nat.div_le_of_le_mul hround

end

/-- The double nearest to a quotient does not reach a whole number from which the quotient is further away than half the
distance of the doubles there. -/
theorem floor_nearest_lt {n d k m : Nat} (h : n < 2 ^ m * d) (hm : m ≤ 52) {g : Nat} (hk : n + g ≤ k * d)
    (hgap : d < 2 ^ (54 - m) * g) : (nearest n d).floor < k := by
  have he := exponentOf_le h hm
  have hscale : 2 ^ (54 - m) ≤ 2 * Nat.pow 2 (-exponentOf n d).toNat := by
    calc 2 ^ (54 - m) ≤ 2 ^ ((-exponentOf n d).toNat + 1) := Nat.pow_le_pow_right (by decide) (by omega)
      _ = 2 * Nat.pow 2 (-exponentOf n d).toNat := Nat.pow_succ'
  rw [floor_nearest_of_exponentOf (by omega)]
  have hpos : 0 < Nat.pow 2 (-exponentOf n d).toNat := Nat.pow_pos (by decide)
  generalize Nat.pow 2 (-exponentOf n d).toNat = scale at hscale hpos
  rw [Nat.div_lt_iff_lt_mul hpos]
  refine Nat.lt_of_mul_lt_mul_right (a := 2 * d) ?_
  calc roundedQuotient (n * scale) d * (2 * d) = 2 * (roundedQuotient (n * scale) d * d) := Nat.mul_left_comm ..
    _ ≤ 2 * (n * scale) + d := two_mul_roundedQuotient_le ..
    _ < 2 * (n * scale) + 2 * scale * g := Nat.add_lt_add_left (Nat.lt_of_lt_of_le hgap (Nat.mul_le_mul_right _ hscale)) _
    _ = 2 * ((n + g) * scale) := by rw [Nat.add_mul, Nat.mul_add, Nat.mul_assoc, Nat.mul_comm scale g]
    _ ≤ 2 * (k * d * scale) := Nat.mul_le_mul_left _ (Nat.mul_le_mul_right _ hk)
    _ = k * scale * (2 * d) := by rw [Nat.mul_right_comm k d, Nat.mul_left_comm]

end AccountSecurity.Double
