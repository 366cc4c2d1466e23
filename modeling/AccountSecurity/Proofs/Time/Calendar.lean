import AccountSecurity.Time.Calendar
import Mathlib.Algebra.BigOperators.Group.List.Basic
import Mathlib.Algebra.GroupWithZero.Nat

/-!
# Days and dates

* `mem_yearOfOrdinal` : a day lies in the year that is found for it;
* `ordinal_ofOrdinal`, `isValid_ofOrdinal` : the date of a day is a date of the calendar, and of that day.
-/

namespace AccountSecurity.Date

/-! ## Years -/

/-- The days of a year. -/
def yearLength (year : Nat) : Nat := if isLeap year then 366 else 365

theorem isLeap_iff {year : Nat} : isLeap year ↔ year % 4 = 0 ∧ (year % 100 ≠ 0 ∨ year % 400 = 0) := by
  simp [isLeap]

/-- The day after the last of a year is the first of the next. -/
theorem daysBeforeYear_succ {year : Nat} (h : 1 ≤ year) :
    daysBeforeYear (year + 1) = daysBeforeYear year + yearLength year := by
  obtain ⟨y, rfl⟩ : ∃ y, year = y + 1 := ⟨year - 1, by omega⟩
  unfold daysBeforeYear yearLength
  simp only [Nat.add_sub_cancel, isLeap_iff, Nat.succ_div, Nat.dvd_iff_mod_eq_zero]
  have hle : y / 100 ≤ y / 4 := Nat.div_le_div_left (by decide) (by decide)
  by_cases h4 : (y + 1) % 4 = 0
  · by_cases h100 : (y + 1) % 100 = 0
    · by_cases h400 : (y + 1) % 400 = 0 <;> simp [h4, h100, h400] <;> omega
    · have h400 : (y + 1) % 400 ≠ 0 := fun hd => h100 (by omega)
      simp [h4, h100, h400]
      omega
  · have h100 : (y + 1) % 100 ≠ 0 := fun hd => h4 (by omega)
    have h400 : (y + 1) % 400 ≠ 0 := fun hd => h4 (by omega)
    simp [h4, h100, h400]
    omega

theorem sum_monthLengths (year : Nat) : (monthLengths year).sum = yearLength year := by
  unfold monthLengths yearLength
  split <;> rfl

/-- The cycles of 400, 100, 4 and 1 years before a year give the days before it. -/
theorem daysBeforeYear_of_cycles {e c f o : Nat} (hc : c ≤ 3) (hf : f ≤ 24) (ho : o ≤ 3) :
    daysBeforeYear (400 * e + 100 * c + 4 * f + o + 1) = 146097 * e + 36524 * c + 1461 * f + 365 * o := by
  unfold daysBeforeYear
  have h4 : (400 * e + 100 * c + 4 * f + o) / 4 = 100 * e + 25 * c + f := by omega
  have h100 : (400 * e + 100 * c + 4 * f + o) / 100 = 4 * e + c := by omega
  have h400 : (400 * e + 100 * c + 4 * f + o) / 400 = e := by omega
  simp only [Nat.add_sub_cancel]
  rw [h4, h100, h400]
  omega

/-- A day lies in the year that is found for it. -/
theorem mem_yearOfOrdinal (n : Nat) :
    daysBeforeYear (yearOfOrdinal n) ≤ n ∧ n < daysBeforeYear (yearOfOrdinal n) + yearLength (yearOfOrdinal n) := by
  have hn : n = 146097 * (n / 146097) + n % 146097 := (Nat.div_add_mod n 146097).symm
  have hr : n % 146097 < 146097 := Nat.mod_lt _ (by decide)
  unfold yearOfOrdinal
  dsimp only
  generalize n / 146097 = e at *
  generalize n % 146097 = r at *
  obtain ⟨c, hc⟩ : ∃ c, min 3 (r / 36524) = c := ⟨_, rfl⟩
  rw [hc]
  obtain ⟨q, hq⟩ : ∃ q, r - 36524 * c = q := ⟨_, rfl⟩
  rw [hq]
  obtain ⟨o, ho⟩ : ∃ o, min 3 (q % 1461 / 365) = o := ⟨_, rfl⟩
  rw [ho]
  have hc3 : c ≤ 3 := by omega
  have ho3 : o ≤ 3 := by omega
  have hf : q / 1461 ≤ 24 := by omega
  rw [daysBeforeYear_of_cycles hc3 hf ho3]
  refine ⟨by omega, ?_⟩
  by_cases hlast : q % 1461 = 1460
  · -- The last day of four years: the fourth is a leap year, unless it ends one of the first three centuries.
    have hyear : isLeap (400 * e + 100 * c + 4 * (q / 1461) + o + 1) := isLeap_iff.2 (by omega)
    rw [yearLength, if_pos hyear]
    omega
  · have hlength : 365 ≤ yearLength (400 * e + 100 * c + 4 * (q / 1461) + o + 1) := by
      unfold yearLength
      split <;> decide
    omega

/-! ## Dates -/

/-- A day of a year is a day of one of its months. -/
theorem monthAndDay_spec (lengths : List Nat) {n : Nat} (h : n < lengths.sum) :
    (∃ length, lengths[(monthAndDay lengths n).1]? = some length ∧ (monthAndDay lengths n).2 < length) ∧
      (lengths.take (monthAndDay lengths n).1).sum + (monthAndDay lengths n).2 = n := by
  induction lengths generalizing n with
  | nil => exact absurd h (Nat.not_lt_zero n)
  | cons length rest ih =>
    unfold monthAndDay
    split
    · next hn => exact ⟨⟨length, rfl, hn⟩, by simp⟩
    · next hn =>
      rw [List.sum_cons] at h
      obtain ⟨hmonth, hsum⟩ := ih (n := n - length) (by omega)
      refine ⟨hmonth, ?_⟩
      simp only [List.take_succ_cons, List.sum_cons]
      omega

theorem dayOfYear_lt (n : Nat) :
    n - daysBeforeYear (yearOfOrdinal n) < (monthLengths (yearOfOrdinal n)).sum := by
  have := mem_yearOfOrdinal n
  rw [sum_monthLengths]
  omega

/-- The date of a day is of that day. -/
theorem ordinal_ofOrdinal (n : Nat) : (ofOrdinal n).ordinal = n := by
  have hyear := (mem_yearOfOrdinal n).1
  have hday := (monthAndDay_spec _ (dayOfYear_lt n)).2
  unfold ordinal ofOrdinal
  simp only [Nat.add_sub_cancel, ← List.sum_eq_foldl]
  omega

theorem daysBeforeYear_mono {y z : Nat} (h : y ≤ z) : daysBeforeYear y ≤ daysBeforeYear z := by
  induction h with
  | refl => exact Nat.le_refl _
  | @step z hz ih =>
    obtain rfl | hpos := Nat.eq_zero_or_pos z
    · exact ih
    · rw [Nat.succ_eq_add_one, daysBeforeYear_succ hpos]
      exact Nat.le_trans ih (Nat.le_add_right ..)

theorem yearOfOrdinal_le {n : Nat} (h : n < dayCount) : yearOfOrdinal n ≤ maxYear := by
  by_contra hlate
  have hbefore : dayCount ≤ daysBeforeYear (yearOfOrdinal n) := daysBeforeYear_mono (by omega)
  have := (mem_yearOfOrdinal n).1
  omega

theorem isValid_iff {d : Date} :
    d.isValid ↔ 1 ≤ d.year ∧ d.year ≤ maxYear ∧ 1 ≤ d.month ∧ 1 ≤ d.day ∧
      ∃ length, (monthLengths d.year)[d.month - 1]? = some length ∧ d.day ≤ length := by
  unfold isValid
  cases (monthLengths d.year)[d.month - 1]? <;> simp [and_assoc]

/-- The date of a day is a date of the calendar. -/
theorem isValid_ofOrdinal {n : Nat} (h : n < dayCount) : (ofOrdinal n).isValid := by
  obtain ⟨length, hmonth, hday⟩ := (monthAndDay_spec _ (dayOfYear_lt n)).1
  refine isValid_iff.2 ⟨?_, yearOfOrdinal_le h, ?_, ?_, length, hmonth, hday⟩
  · exact Nat.le_add_left ..
  · exact Nat.le_add_left ..
  · exact Nat.le_add_left ..

/-- A month has at most 31 days, and a year twelve months. -/
theorem length_le {year month length : Nat} (h : (monthLengths year)[month]? = some length) :
    month < 12 ∧ length ≤ 31 := by
  obtain ⟨hm, hl⟩ := List.getElem?_eq_some_iff.1 h
  refine ⟨hm, ?_⟩
  have hmem : length ∈ monthLengths year := hl ▸ List.getElem_mem hm
  unfold monthLengths at hmem
  split at hmem <;> simp at hmem <;> omega

end AccountSecurity.Date
