import AccountSecurity.Proofs.Encoding.Base32
import AccountSecurity.Proofs.Number.Double
import AccountSecurity.Proofs.Text.Integer
import AccountSecurity.Totp.Code

/-!
# Codes of authenticator apps can be checked

* `IsSecret`, `IsSecret.exists_key` : a secret that was made, which has a key;
* `TotpConfig.IsValid`, `TotpConfig.Serves` : the settings allow codes to be made, and a time has a code for every step
  of its window;
* `elapsed`, `shownSecond`, `shownStep` : the time, and what a clock in double precision makes of it;
* `InYears`, `shownSecond_eq` : in the years that it serves, the clock is right but for the end of a second;
* `IsRight`, `exists_verify_iff` : a submitted code is right iff it is that of a step of the window;
* `exists_verify` : within the times that the window serves, it is right or wrong.
-/

namespace AccountSecurity

/-- Codes can be made under the settings. -/
structure TotpConfig.IsValid (config : TotpConfig) : Prop where
  digits : 6 ≤ config.digits ∧ config.digits ≤ 10
  interval : 1 ≤ config.interval ∧ config.interval ≤ 120
  validWindow : 0 ≤ config.validWindow

/-- The window around a time begins in 1970 at the earliest, and another step ends before the year 10000. -/
structure TotpConfig.Serves (config : TotpConfig) (now : DateTime) : Prop where
  utc : now.offset = 0
  start : DateTime.epoch.instant + config.validWindow * config.interval * DateTime.perSecond ≤ now.instant
  stop : (now.addSeconds? config.interval).isSome

theorem DateTime.instant_of_offset {t : DateTime} (h : t.offset = 0) : t.instant = t.wall := by
  rw [instant, h, Int.sub_zero]

theorem DateTime.instant_epoch : epoch.instant = epoch.wall := rfl

namespace Totp

/-! ## Secrets -/

theorem isText_secretOf (draws : List Nat) : Base32.IsText (secretOf draws).toList := by
  intro c hc
  rw [secretOf, String.toList_ofList] at hc
  obtain ⟨n, -, rfl⟩ := List.mem_map.1 hc
  have hlt : n % Base32.alphabet.length < Base32.alphabet.length := Nat.mod_lt n (by decide)
  rw [List.getD_eq_getElem?_getD, List.getElem?_eq_getElem hlt, Option.getD_some]
  exact List.getElem_mem hlt

/-- The secret was made of as many draws as it takes. -/
def IsSecret (secret : String) : Prop := ∃ draws : List Nat, draws.length = secretLength ∧ secretOf draws = secret

/-- A secret that was made has a key that is long enough. -/
theorem IsSecret.exists_key {secret : String} (h : IsSecret secret) : ∃ key, keyOf secret = .ok key := by
  obtain ⟨draws, h, rfl⟩ := h
  have hlength : (secretOf draws).toList.length = 32 := by
    rw [secretOf, String.toList_ofList, List.length_map, h]
    rfl
  obtain ⟨key, hkey, hl⟩ := Base32.decode_of_isText (isText_secretOf draws) (by rw [hlength])
  rw [hlength] at hl
  refine ⟨key, ?_⟩
  unfold keyOf
  rw [hkey]
  exact if_neg (by rw [hl]; decide)

/-! ## Settings -/

variable {config : TotpConfig} {key : List UInt8} {now : DateTime}

theorem checkConfig_of_isValid (h : config.IsValid) : checkConfig config = .ok () := by
  obtain ⟨hdigits, hinterval, -⟩ := h
  unfold checkConfig
  rw [if_neg (by omega), if_neg (by omega)]

/-! ## The clock -/

/-- The microseconds since the beginning of 1970. -/
def elapsed (now : DateTime) : Nat := (now.instant - DateTime.epoch.instant).toNat

/-- The second that a clock in double precision shows. -/
def shownSecond (now : DateTime) : Nat := (Double.nearest (elapsed now) DateTime.perSecond).floor

/-- The step that it shows. -/
def shownStep (config : TotpConfig) (now : DateTime) : Nat := shownSecond now / config.interval.toNat

/-- A time in the years from 1970 to 9999, of which the last 15 microseconds are rounded up and out of these years. -/
structure InYears (now : DateTime) : Prop where
  utc : now.offset = 0
  start : DateTime.epoch.wall ≤ now.wall
  stop : now.wall + 16 ≤ DateTime.wallEnd

section Clock
variable (h : InYears now)
include h

theorem InYears.wall_eq : now.wall = DateTime.epoch.wall + elapsed now := by
  have hstart := h.start
  rw [elapsed, DateTime.instant_of_offset h.utc, DateTime.instant_epoch]
  omega

theorem InYears.elapsed_le : elapsed now + 16 ≤ secondsEnd * DateTime.perSecond := by
  have hstop := h.stop
  have hwall := h.wall_eq
  have hspan : DateTime.wallEnd = DateTime.epoch.wall + secondsEnd * DateTime.perSecond := by decide
  omega

/-- The doubles around these times lie less than 31 microseconds apart. -/
theorem InYears.elapsed_lt : elapsed now < 2 ^ 38 * DateTime.perSecond := by
  have hle := h.elapsed_le
  have hfew : secondsEnd * DateTime.perSecond < 2 ^ 38 * DateTime.perSecond := by decide +kernel
  omega

theorem InYears.elapsed_spare : elapsed now < 2 ^ (DateTime.perSecond.log2 + 53) :=
  Nat.lt_trans h.elapsed_lt (by decide +kernel)

/-- The clock shows no second that is over. -/
theorem le_shownSecond {second : Nat} (hle : second * DateTime.perSecond ≤ elapsed now) : second ≤ shownSecond now :=
  Double.le_floor_nearest h.elapsed_spare (by decide) hle

/-- The clock is right to the second, but it may round up the last 15 microseconds of a second, from the year 2514 on. -/
theorem shownSecond_eq : shownSecond now = elapsed now / DateTime.perSecond ∨
    shownSecond now = elapsed now / DateTime.perSecond + 1 ∧ 2 ^ 34 * DateTime.perSecond ≤ elapsed now ∧
      DateTime.perSecond < elapsed now % DateTime.perSecond + 16 := by
  have hdiv := Nat.div_add_mod (elapsed now) DateTime.perSecond
  have hmod := Nat.mod_lt (elapsed now) (show 0 < DateTime.perSecond by decide)
  rw [Nat.mul_comm] at hdiv
  have hlow : elapsed now / DateTime.perSecond ≤ shownSecond now := le_shownSecond h (Nat.div_mul_le_self ..)
  have hnext := Nat.add_one_mul (elapsed now / DateTime.perSecond) DateTime.perSecond
  have hhigh : shownSecond now ≤ elapsed now / DateTime.perSecond + 1 :=
    Double.floor_nearest_le h.elapsed_spare (by decide) (by omega)
  by_cases hearly : elapsed now < 2 ^ 34 * DateTime.perSecond
  · have hlt : shownSecond now < elapsed now / DateTime.perSecond + 1 :=
      Double.floor_nearest_lt (g := 1) hearly (by decide) (by omega) (by decide)
    exact .inl (by omega)
  by_cases hfar : elapsed now % DateTime.perSecond + 16 ≤ DateTime.perSecond
  · have hlt : shownSecond now < elapsed now / DateTime.perSecond + 1 :=
      Double.floor_nearest_lt (g := 16) h.elapsed_lt (by decide) (by omega) (by decide)
    exact .inl (by omega)
  · by_cases heq : shownSecond now = elapsed now / DateTime.perSecond
    · exact .inl heq
    · exact .inr ⟨by omega, by omega, by omega⟩

/-- The clock does not leave the years. -/
theorem clockSeconds_eq : clockSeconds now = .ok (shownSecond now) := by
  have hlt : shownSecond now < secondsEnd :=
    Double.floor_nearest_lt (g := 16) h.elapsed_lt (by decide) h.elapsed_le (by decide)
  have hinstant : now.instant - DateTime.epoch.instant = (elapsed now : Int) := by
    rw [DateTime.instant_of_offset h.utc, DateTime.instant_epoch, h.wall_eq]
    omega
  unfold clockSeconds
  dsimp only
  rw [hinstant, Int.toNat_natCast]
  exact if_neg (by unfold shownSecond at hlt; omega)

theorem stepOf_eq (config : TotpConfig) : stepOf config now = .ok (shownStep config now) := by
  rw [stepOf, clockSeconds_eq h]
  rfl

end Clock

/-- The last 15 microseconds are rounded up to a second that is not served. -/
theorem secondsEnd_le_shownSecond (hutc : now.offset = 0) (hlate : DateTime.wallEnd < now.wall + 16) :
    secondsEnd ≤ shownSecond now := by
  have hall : ∀ k : Fin 15, secondsEnd ≤
      (Double.nearest (secondsEnd * DateTime.perSecond - (k + 1)) DateTime.perSecond).floor := by decide +kernel
  have hspan : DateTime.wallEnd = DateTime.epoch.wall + secondsEnd * DateTime.perSecond := by decide
  have hlt := now.wall_lt
  have hback : elapsed now = secondsEnd * DateTime.perSecond - (DateTime.wallEnd - now.wall - 1 + 1) := by
    rw [elapsed, DateTime.instant_of_offset hutc, DateTime.instant_epoch]
    omega
  rw [shownSecond, hback]
  exact hall ⟨DateTime.wallEnd - now.wall - 1, by omega⟩

/-- The clock serves no other times. -/
theorem clockSeconds_of_not_inYears (hutc : now.offset = 0) (hout : ¬ InYears now) :
    clockSeconds now = .error (.value .totpTime) := by
  unfold clockSeconds
  dsimp only
  refine if_pos ?_
  by_cases hstart : DateTime.epoch.wall ≤ now.wall
  · exact .inr (secondsEnd_le_shownSecond hutc (Nat.lt_of_not_le fun hstop => hout ⟨hutc, hstart, hstop⟩))
  · rw [DateTime.instant_of_offset hutc, DateTime.instant_epoch]
    exact .inl (by omega)

/-! ## The codes of the window -/

/-- Codes are digits, which have no other normal form. -/
theorem normalize_codeAt (step : Nat) : Text.normalize (codeAt config key step) = codeAt config key step := by
  refine Text.normalize_of_ascii fun c hc => Text.toNat_lt_of_isDigit ?_
  rw [codeAt, hotp, lastDigits, String.toList_ofList] at hc
  exact Text.isDigit_of_mem_padded hc

theorem length_codeAt (h : config.IsValid) (step : Nat) : (codeAt config key step).length = config.digits.toNat := by
  obtain ⟨hdigits, -⟩ := h.digits
  rw [codeAt, hotp, lastDigits, String.length_ofList]
  exact Text.length_padded (by omega) (Nat.mod_lt _ (Nat.pow_pos (by decide)))

theorem sameCode_codeAt_iff {submitted : String} {step : Nat} : sameCode submitted (codeAt config key step) = true ↔
    submitted.length ≤ maxCompared ∧ Text.normalize submitted = codeAt config key step := by
  rw [sameCode, normalize_codeAt, Bool.and_eq_true, decide_eq_true_iff, beq_iff_eq]

theorem anyStep_iff {submitted : String} {count first : Nat} : anyStep config key submitted count first = true ↔
    ∃ step, (first ≤ step ∧ step < first + count) ∧ sameCode submitted (codeAt config key step) = true := by
  induction count generalizing first with
  | zero =>
    refine ⟨nofun, ?_⟩
    rintro ⟨step, ⟨hge, hlt⟩, -⟩
    omega
  | succ count ih =>
    rw [anyStep, Bool.or_eq_true, ih]
    constructor
    · rintro (hfirst | ⟨step, ⟨hge, hlt⟩, hsame⟩)
      · exact ⟨first, ⟨by omega, by omega⟩, hfirst⟩
      · exact ⟨step, ⟨by omega, by omega⟩, hsame⟩
    · rintro ⟨step, ⟨hge, hlt⟩, hsame⟩
      obtain rfl | hgt := Nat.eq_or_lt_of_le hge
      · exact .inl hsame
      · exact .inr ⟨step, ⟨hgt, by omega⟩, hsame⟩

/-- The submitted code, in normal form and if it is not too long, is that of a step not further than the window from
this one. -/
def IsRight (config : TotpConfig) (key : List UInt8) (now : Nat) (submitted : String) : Prop :=
  submitted.length ≤ maxCompared ∧ ∃ step : Nat, ((now : Int) - config.validWindow ≤ step ∧
    (step : Int) ≤ now + config.validWindow) ∧ Text.normalize submitted = codeAt config key step

/-- The code that an app shows is right as long as its clock is not further off than the window. -/
theorem isRight_codeAt (h : config.IsValid) {now step : Nat} (hlow : (now : Int) - config.validWindow ≤ step)
    (hhigh : (step : Int) ≤ now + config.validWindow) : IsRight config key now (codeAt config key step) := by
  obtain ⟨-, hdigits⟩ := h.digits
  refine ⟨?_, step, ⟨hlow, hhigh⟩, normalize_codeAt step⟩
  rw [length_codeAt h, maxCompared]
  omega

/-- **A submitted code** is right or wrong for a secret that was made. -/
theorem exists_verify_iff {secret : String} (h : config.IsValid) (hyears : InYears now)
    (hwindow : config.validWindow ≤ shownStep config now) (hkey : keyOf secret = .ok key) (submitted : String) :
    ∃ right, verify config secret submitted now = .ok right ∧
      (right = true ↔ IsRight config key (shownStep config now) submitted) := by
  have hpositive := h.validWindow
  refine ⟨anyStep config key submitted (windowSize config) (shownStep config now - config.validWindow).toNat, ?_, ?_⟩
  · unfold verify
    rw [checkConfig_of_isValid h, hkey, stepOf_eq hyears]
    exact if_neg (by omega)
  · rw [anyStep_iff]
    simp only [sameCode_codeAt_iff, windowSize]
    constructor
    · rintro ⟨step, ⟨hge, hlt⟩, hshort, hsame⟩
      exact ⟨hshort, step, ⟨by omega, by omega⟩, hsame⟩
    · rintro ⟨hshort, step, ⟨hge, hle⟩, hsame⟩
      exact ⟨step, ⟨by omega, by omega⟩, hshort, hsame⟩

/-- Where the clock serves no time, a code is neither right nor wrong. -/
theorem verify_of_clockSeconds {secret : String} {f : Failure} (h : config.IsValid) (hkey : keyOf secret = .ok key)
    (hclock : clockSeconds now = .error f) (submitted : String) : verify config secret submitted now = .error f := by
  unfold verify stepOf
  rw [checkConfig_of_isValid h, hkey, hclock]
  rfl

/-! ## Times that serve the settings -/

theorem inYears_of_serves (h : config.IsValid) (hs : config.Serves now) : InYears now := by
  obtain ⟨hpositive, -⟩ := h.interval
  obtain ⟨later, hlater⟩ := Option.isSome_iff_exists.1 hs.stop
  have hend : (now.wall : Int) + config.interval * DateTime.perSecond < DateTime.wallEnd := by
    unfold DateTime.addSeconds? DateTime.addMicros? DateTime.of? at hlater
    split at hlater
    · next hr => exact hr.1.2
    · cases hlater
  have hwindow := Int.mul_nonneg h.validWindow (show 0 ≤ config.interval by omega)
  have hsecond : DateTime.perSecond = 1000000 := rfl
  have hstart := hs.start
  rw [DateTime.instant_of_offset hs.utc, DateTime.instant_epoch, hsecond] at hstart
  rw [hsecond] at hend
  exact ⟨hs.utc, by omega, by omega⟩

/-- The clock in double precision does not leave the whole seconds between which the time lies. -/
theorem clockSeconds_of_serves (h : config.IsValid) (hs : config.Serves now) :
    ∃ seconds : Nat, clockSeconds now = .ok seconds ∧ config.validWindow * config.interval ≤ seconds := by
  have hyears := inYears_of_serves h hs
  obtain ⟨hpositive, -⟩ := h.interval
  obtain ⟨k, hk⟩ := Int.eq_ofNat_of_zero_le (Int.mul_nonneg h.validWindow (show 0 ≤ config.interval by omega))
  have hstart := hs.start
  rw [hk, DateTime.instant_of_offset hs.utc, DateTime.instant_epoch, hyears.wall_eq] at hstart
  have hbegun : k * DateTime.perSecond ≤ elapsed now := by omega
  exact ⟨_, clockSeconds_eq hyears, hk ▸ Int.ofNat_le.2 (le_shownSecond hyears hbegun)⟩

/-- The step of the time is not within the first ones that the window reaches behind. -/
theorem stepOf_of_serves (h : config.IsValid) (hs : config.Serves now) :
    ∃ step : Nat, stepOf config now = .ok step ∧ config.validWindow ≤ step := by
  obtain ⟨seconds, hseconds, hle⟩ := clockSeconds_of_serves h hs
  obtain ⟨hpositive, -⟩ := h.interval
  refine ⟨seconds / config.interval.toNat, ?_, ?_⟩
  · unfold stepOf
    rw [hseconds]
    rfl
  · rw [Int.natCast_ediv, Int.toNat_of_nonneg (by omega)]
    exact Int.le_ediv_of_mul_le (by omega) hle

/-- **A submitted code can be checked** against a secret that was made, within the times that the window serves. -/
theorem exists_verify (h : config.IsValid) (hs : config.Serves now) {secret : String} (hsecret : IsSecret secret)
    (submitted : String) : ∃ right, verify config secret submitted now = .ok right := by
  obtain ⟨key, hkey⟩ := hsecret.exists_key
  obtain ⟨step, hstep, hle⟩ := stepOf_of_serves h hs
  unfold verify
  rw [checkConfig_of_isValid h, hkey, hstep]
  exact ⟨_, if_neg (by omega)⟩

end Totp

end AccountSecurity
