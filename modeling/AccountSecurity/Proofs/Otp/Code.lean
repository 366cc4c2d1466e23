import AccountSecurity.Proofs.Run
import AccountSecurity.Proofs.Service.OtpChallenge
import Mathlib.Probability.Distributions.Uniform

/-!
# SMS codes are the texts of their length

A code is drawn as a number below `10 ^ length`. Zeros in front keep its length, so that each text of that many
digits is the code of exactly one number, and chance is not distorted.

* `IsDigitText` : a text of so many ASCII digits;
* `exists_otpCode` : every such text is a code;
* `bijOn_drawnCode` : numbers below the bound and texts of the length, one for one;
* `codeLaw`, `codeLaw_ok` : the law of the code of a random number;
* `codes_match_numbers` : **codes and numbers**, as the service draws them.
-/

namespace AccountSecurity.OtpChallenge
open World

/-- A text of so many ASCII digits. -/
def IsDigitText (length : Nat) (s : String) : Prop := s.length = length ∧ ∀ c ∈ s.toList, c.isDigit

instance (length : Nat) (s : String) : Decidable (IsDigitText length s) :=
  decidable_of_iff (s.length = length ∧ s.toList.all Char.isDigit) (by rw [IsDigitText, List.all_eq_true])

variable {length : Nat}

/-! ## One code for each number -/

theorem otpBound_natCast (length : Nat) : otpBound length = 10 ^ length := by
  rw [otpBound, Int.toNat_natCast]
  rfl

/-- A number counts as its remainder below the bound. -/
theorem drawnCode_mod (draw : Nat) : drawnCode length (draw % 10 ^ length) = drawnCode length draw := by
  unfold drawnCode
  rw [if_neg (Int.not_lt.2 (Int.natCast_nonneg length)), if_neg (Int.not_lt.2 (Int.natCast_nonneg length)),
    otpBound_natCast, Nat.mod_mod]

theorem isDigitText_otpCode (hpos : 1 ≤ length) {d : Nat} (hd : d < 10 ^ length) :
    IsDigitText length (otpCode length d) := by
  rw [IsDigitText, otpCode, Int.toNat_natCast, String.length_ofList, String.toList_ofList]
  exact ⟨Text.length_padded hpos hd, fun c hc => Text.isDigit_of_mem_padded hc⟩

/-- Every text of the length is the code of the number that its digits make. -/
theorem exists_otpCode (hpos : 1 ≤ length) {s : String} (hs : IsDigitText length s) :
    ∃ d < 10 ^ length, otpCode length d = s := by
  obtain ⟨hlen, hdigits⟩ := hs
  obtain ⟨ds, hds, hlt⟩ : ∃ ds : List Nat, ds.map Nat.digitChar = s.toList ∧ ∀ d ∈ ds, d < 10 :=
    ⟨_, Text.digits_values hdigits, fun d => Text.lt_of_mem_values hdigits⟩
  have hlength : ds.length = length := by rw [← hlen, ← String.length_toList, ← hds, List.length_map]
  have hpad := Text.padded_ofDigits hlt (List.ne_nil_of_length_pos (hlength ▸ hpos))
  refine ⟨Text.ofDigits ds, hlength ▸ Text.ofDigits_lt hlt, ?_⟩
  rw [otpCode, Int.toNat_natCast, ← hlength, hpad, hds, String.ofList_toList]

section
variable (hmax : length ≤ Text.maxIntegerDigits)
include hmax

/-- A number below the bound has its code. -/
theorem drawnCode_natCast {d : Nat} (hd : d < 10 ^ length) : drawnCode length d = .ok (otpCode length d) := by
  have hmod : d % otpBound length = d := Nat.mod_eq_of_lt (by rwa [otpBound_natCast])
  have hfew : d < 10 ^ Text.maxIntegerDigits := hd.trans_le (Nat.pow_le_pow_right (by decide) hmax)
  have hcode := drawnCode_of_lt (Int.natCast_nonneg length) (hmod.symm ▸ hfew)
  rwa [hmod] at hcode

variable (hpos : 1 ≤ length)
include hpos

/-- The number is read from its code, which begins with a zero for every power of ten that it does not reach. -/
theorem read_drawnCode {d : Nat} (hd : d < 10 ^ length) {s : String} (hs : drawnCode length d = .ok s) :
    Text.readInteger? s = some (d : Int) ∧
      ∀ k ≤ length, (List.replicate k '0' <+: s.toList ↔ d < 10 ^ (length - k)) := by
  rw [drawnCode_natCast hmax hd, otpCode, Int.toNat_natCast] at hs
  rw [← Except.ok.inj hs]
  refine ⟨Text.readInteger?_padded hpos hmax hd, fun k hk => ?_⟩
  rw [String.toList_ofList]
  exact Text.replicate_isPrefix_padded_iff hpos hk hd

/-- Numbers below the bound and texts of the length correspond one for one. -/
theorem bijOn_drawnCode :
    Set.BijOn (drawnCode length) {d | d < 10 ^ length} (Except.ok '' {s | IsDigitText length s}) := by
  refine ⟨fun d hd => ?_, fun d hd d' hd' he => ?_, ?_⟩
  · exact ⟨_, isDigitText_otpCode hpos hd, (drawnCode_natCast hmax hd).symm⟩
  · -- what is read from the common code is either number
    have hcode := drawnCode_natCast hmax hd
    obtain ⟨hread, -⟩ := read_drawnCode hmax hpos hd hcode
    obtain ⟨hread', -⟩ := read_drawnCode hmax hpos hd' (he.symm.trans hcode)
    exact Int.natCast_inj.1 (Option.some.inj (hread.symm.trans hread'))
  · rintro _ ⟨s, hs, rfl⟩
    obtain ⟨d, hd, rfl⟩ := exists_otpCode hpos hs
    exact ⟨d, hd, drawnCode_natCast hmax hd⟩

end

/-! ## The law of codes -/

/-- The law of what is drawn when each number below the bound is equally likely. -/
noncomputable def codeLaw (length : Nat) : PMF (Except Fault String) :=
  (PMF.uniformOfFintype (Fin (10 ^ length))).map fun d : Fin (10 ^ length) => drawnCode length d

/-- Each text of the length is as likely as each number, and no other text is ever drawn. -/
theorem codeLaw_ok (hmax : length ≤ Text.maxIntegerDigits) (hpos : 1 ≤ length) (s : String) :
    codeLaw length (.ok s) = if IsDigitText length s then ((10 : ENNReal) ^ length)⁻¹ else 0 := by
  have hbij := bijOn_drawnCode hmax hpos
  rw [codeLaw, PMF.map_apply]
  split
  · next hs =>
    obtain ⟨d, hd, hcode⟩ := hbij.surjOn ⟨s, hs, rfl⟩
    rw [tsum_eq_single ⟨d, hd⟩, if_pos hcode.symm, PMF.uniformOfFintype_apply, Fintype.card_fin, Nat.cast_pow]
    · rfl
    · intro d' hne
      refine if_neg fun he => hne (Fin.ext ?_)
      exact hbij.injOn d'.isLt hd (he.symm.trans hcode.symm)
  · next hs =>
    refine ENNReal.tsum_eq_zero.2 fun d => if_neg fun he => hs ?_
    obtain ⟨s', hs', heq⟩ := hbij.mapsTo d.isLt
    exact Except.ok.inj (heq.trans he.symm) ▸ hs'

/-! ## Codes and numbers -/

/-- **Codes and numbers.** Where codes have from 1 to 4300 digits, the service takes the next random number, brought
below `10 ^ length`, and returns its code. The numbers below this bound and the texts of so many digits correspond one
for one; a number is read from its code again, in which no zero in front is lost; and if the numbers are equally
likely, so are the texts. -/
theorem codes_match_numbers {config : OtpConfig} (hlength : config.codeLength = length) (hpos : 1 ≤ length)
    (hmax : length ≤ Text.maxIntegerDigits) :
    (∀ (S : Type) (setup : Setup) (w : World S), (drawCode setup config).runOn w =
      ((drawnCode length (setup.sources.draws w.drawn % 10 ^ length)).mapError .fault, w.drew 1)) ∧
    Set.BijOn (drawnCode length) {d | d < 10 ^ length} (Except.ok '' {s | IsDigitText length s}) ∧
    (∀ d < 10 ^ length, ∀ s, drawnCode length d = .ok s →
      Text.readInteger? s = some (d : Int) ∧
        ∀ k ≤ length, (List.replicate k '0' <+: s.toList ↔ d < 10 ^ (length - k))) ∧
    ∀ s, codeLaw length (.ok s) = if IsDigitText length s then ((10 : ENNReal) ^ length)⁻¹ else 0 := by
  refine ⟨fun S setup w => ?_, bijOn_drawnCode hmax hpos, fun d hd s hs => read_drawnCode hmax hpos hd hs,
    codeLaw_ok hmax hpos⟩
  rw [runOn_drawCode_eq, hlength, drawnCode_mod]

/-- With the settings of the production system, the number 1000042 counts as 42, whose code begins with four zeros. -/
theorem codes_match_numbers_six :
    let w : World MemoryStore := { World.sample with drawn := 1000042 }
    ((drawCode Setup.sample Setup.sample.otp).runOn w).1 = .ok "000042" ∧
    Text.readInteger? "000042" = some 42 ∧
    (List.replicate 4 '0' <+: "000042".toList ∧ ¬ List.replicate 5 '0' <+: "000042".toList) ∧
    (codeLaw 6 (.ok "000042") = ((10 : ENNReal) ^ 6)⁻¹ ∧ codeLaw 6 (.ok "42") = 0) := by
  intro w
  have hcode : drawnCode (6 : Nat) 42 = .ok "000042" := by decide +kernel
  have hnext : Setup.sample.sources.draws w.drawn % 10 ^ 6 = 42 := by decide
  have hlength : Setup.sample.otp.codeLength = (6 : Nat) := rfl
  obtain ⟨hdraws, -, hreads, hlaw⟩ := codes_match_numbers hlength (by decide) (by decide)
  obtain ⟨hnumber, hzeros⟩ := hreads 42 (by decide) "000042" hcode
  refine ⟨?_, hnumber, ⟨(hzeros 4 (by decide)).2 (by decide), fun h => ?_⟩, ?_, ?_⟩
  · rw [hdraws, hnext, hcode]
    rfl
  · exact absurd ((hzeros 5 (by decide)).1 h) (by decide)
  · exact (hlaw "000042").trans (if_pos (by decide))
  · exact (hlaw "42").trans (if_neg (by decide))

end AccountSecurity.OtpChallenge
