import AccountSecurity.Proofs.Service.Faithful
import AccountSecurity.Proofs.Totp.Code
import AccountSecurity.Proofs.TotpSecrets

/-!
# Which codes of an authenticator app are accepted

* `Account.withFactor` : an account with the factor turned on or off;
* `TotpFactor.Decides`, `TotpFactor.decides` : what turning the factor on, turning it off and a login do with a right code and
  with a wrong one;
* `TotpFactor.yields_generate` : how a secret gets there that was made;
* `totp_acceptance_window` : **a code is accepted iff it is that of a step of the window**, in either store;
* `code_of_the_step_refused` : the clock in double precision rounds the end of a second up. There, the code of the step can be
  refused, and no code is accepted when the years end.
-/

namespace AccountSecurity
open World

/-! ## The calls -/

/-- The account with the factor turned on or off, and with this secret. -/
def Account.withFactor (a : Account) (enabled : Bool) (secret : Option String) : Account :=
  { a with credentials := { a.credentials with
      totpEnabled := enabled, totpSecret := secret, gaps := { a.credentials.gaps with totpEnabled := false } } }

variable {S : Type} [AccountStore S]

/-- What is stored and what the log is told, if the submitted code is right and if it is not. Only an account whose
factor is on can turn it off or log in by it. -/
structure TotpFactor.Decides [FaithfulStore S] (setup : Setup) (accounts : String → Option Account) (w : World S)
    (id submitted : String) (a : Account) (right : Prop) : Prop where
  enables : right → Yields ((enable setup id submitted).runOn w) (.ok true)
    (Function.update accounts id (some (a.withFactor true a.credentials.totpSecret)))
    (w.surroundings.logged setup .mfaEnabled (some id) none none metadata)
  enableRefuses : ¬ right → Yields ((enable setup id submitted).runOn w) (.error (.refused .totpInvalid)) accounts
    (w.surroundings.logged setup .mfaFailed (some id) none (some .totpInvalid) metadata)
  disables : a.credentials.totpEnabled → right → Yields ((disable setup id submitted).runOn w) (.ok true)
    (Function.update accounts id (some (a.withFactor false none)))
    (w.surroundings.logged setup .mfaDisabled (some id) none none metadata)
  disableRefuses : a.credentials.totpEnabled → ¬ right →
    Yields ((disable setup id submitted).runOn w) (.error (.refused .totpInvalid)) accounts
      (w.surroundings.logged setup .mfaFailed (some id) none (some .totpInvalid) metadata)
  validates : a.credentials.totpEnabled → right → Yields ((validate setup id submitted).runOn w) (.ok true) accounts
    (w.surroundings.logged setup .mfaVerified (some id) none none metadata)
  validateRejects : a.credentials.totpEnabled → ¬ right →
    Yields ((validate setup id submitted).runOn w) (.ok false) accounts
      (w.surroundings.logged setup .mfaFailed (some id) none (some .totpInvalid) metadata)

/-- What the calls give where no submitted code can be checked: nothing is stored, and the log is told nothing. -/
structure TotpFactor.Fails [FaithfulStore S] (setup : Setup) (accounts : String → Option Account) (w : World S)
    (id submitted : String) (a : Account) (f : Failure) : Prop where
  enableFails : Yields ((enable setup id submitted).runOn w) (.error f) accounts w.surroundings
  disableFails : a.credentials.totpEnabled → Yields ((disable setup id submitted).runOn w) (.error f) accounts w.surroundings
  validateFails : a.credentials.totpEnabled → Yields ((validate setup id submitted).runOn w) (.error f) accounts w.surroundings

namespace TotpFactor

/-- A secret that was made can be used. -/
theorem usableSecret?_of_isSecret {c : Credentials} {secret : String} (hs : c.totpSecret = some secret)
    (hmade : Totp.IsSecret secret) : usableSecret? c = some secret := by
  obtain ⟨draws, hdraws, rfl⟩ := hmade
  have hne : (Totp.secretOf draws != "") = true := by
    rw [bne_iff_ne]
    exact secretOf_ne_empty hdraws
  rw [usableSecret?, hs, Option.filter_some, if_pos hne]

section Check
variable [FaithfulStore S] {setup : Setup} {w : World S} {accounts : String → Option Account}
  (hheld : Holds w.store accounts) (hclock : w.clock.offset = 0) {id submitted secret : String} {a : Account}
  (ha : accounts id = some a) (hs : usableSecret? a.credentials = some secret)
include hheld hclock ha hs

/-- **A code that can be checked** decides what each call does. -/
theorem decides {right : Bool} (hright : Totp.verify setup.totp secret submitted w.clock = .ok right) :
    Decides setup accounts w id submitted a (right = true) := by
  obtain ⟨v, h, rfl⟩ := hheld.exists_alongside hclock
  rw [h.clock] at hright
  have henable := runOn_enable h.sound setup id submitted
  have hdisable := runOn_disable h.sound setup id submitted
  have hvalidate := runOn_validate h.sound setup id submitted
  simp only [ha, hs, hright] at henable hdisable hvalidate
  have henables := agrees_enable h setup id submitted
  have hdisables := agrees_disable h setup id submitted
  have hvalidates := agrees_validate h setup id submitted
  cases right with
  | false =>
    refine ⟨nofun, fun _ => ?_, fun _ => nofun, fun hon _ => ?_, fun _ => nofun, fun hon _ => ?_⟩ <;> rw [h.rest]
    · exact henables.yields henable
    · rw [hon] at hdisable
      exact hdisables.yields hdisable
    · rw [hon] at hvalidate
      exact hvalidates.yields hvalidate
  | true =>
    refine ⟨fun _ => ?_, absurd rfl, fun hon _ => ?_, fun _ => absurd rfl, fun hon _ => ?_, fun _ => absurd rfl⟩ <;>
      rw [h.rest]
    · exact henables.yields_accounts henable (account?_changed h.sound ha (storable_totpEnabled true))
    · rw [hon] at hdisable
      exact hdisables.yields_accounts hdisable (account?_changed h.sound ha storable_removal)
    · rw [hon] at hvalidate
      exact hvalidates.yields hvalidate

/-- A code that cannot be checked lets each call fail. -/
theorem fails {f : Failure} (hfails : Totp.verify setup.totp secret submitted w.clock = .error f) :
    Fails setup accounts w id submitted a f := by
  obtain ⟨v, h, rfl⟩ := hheld.exists_alongside hclock
  rw [h.clock] at hfails
  have henable := runOn_enable h.sound setup id submitted
  have hdisable := runOn_disable h.sound setup id submitted
  have hvalidate := runOn_validate h.sound setup id submitted
  simp only [ha, hs, hfails] at henable hdisable hvalidate
  refine ⟨?_, fun hon => ?_, fun hon => ?_⟩ <;> rw [h.rest]
  · exact (agrees_enable h setup id submitted).yields henable
  · rw [hon] at hdisable
    exact (agrees_disable h setup id submitted).yields hdisable
  · rw [hon] at hvalidate
    exact (agrees_validate h setup id submitted).yields hvalidate

end Check

omit [AccountStore S] in
/-- The next secret is one that was made. -/
theorem isSecret_nextSecret (setup : Setup) (w : World S) : Totp.IsSecret (nextSecret setup w) :=
  ⟨w.nextDraws setup Totp.secretLength, by rw [nextDraws, List.length_map, List.length_range'], rfl⟩

section Generate
variable [FaithfulStore S] {setup : Setup} {w : World S} {accounts : String → Option Account} {id : String} {a : Account}

/-- The secret that is returned is stored, and nothing else of the account is changed. -/
theorem yields_generate (hconfig : setup.totp.IsValid) (hheld : Holds w.store accounts) (hclock : w.clock.offset = 0)
    (ha : accounts id = some a) :
    Yields ((generate setup id).runOn w) (.ok (enrollment setup (nextSecret setup w) a.email))
      (Function.update accounts id (some (a.changed [.totpSecret (some (nextSecret setup w))])))
      (w.surroundings.drew Totp.secretLength) := by
  obtain ⟨v, h, rfl⟩ := hheld.exists_alongside hclock
  have hsecret : nextSecret setup w = nextSecret setup v := by rw [nextSecret, nextSecret, nextDraws, nextDraws, h.drawn]
  have hrun := runOn_generate h.sound setup id
  rw [ha, Totp.checkConfig_of_isValid hconfig] at hrun
  have hchanged := account?_changed (h.sound.drew Totp.secretLength) ha (storable_totpSecret (some (nextSecret setup v)))
  rw [hsecret, h.rest]
  exact (agrees_generate h setup id).yields_accounts hrun hchanged

end Generate

end TotpFactor

open TotpFactor

/-- **Acceptance of codes.** While a secret that was made is stored for an account, and the window does not begin before
the first step, a submitted code turns the factor on, turns it off and passes a login iff it is that of a step in the window
around the shown one. Every code that an app shows within the window is one of these. The shown step is that of the
second of now, or of the next second if now is in the last 15 microseconds of a second after the year 2513. Before 1970
and in the last 15 microseconds of the last year, no code can be checked. -/
theorem totp_acceptance_window [FaithfulStore S] {setup : Setup} (hconfig : setup.totp.IsValid) {w : World S}
    {accounts : String → Option Account} (hheld : Holds w.store accounts) (hclock : w.clock.offset = 0)
    {id secret : String} {a : Account} (ha : accounts id = some a) (hstored : a.credentials.totpSecret = some secret)
    (hmade : Totp.IsSecret secret) :
    let now := Totp.shownStep setup.totp w.clock
    let second := Totp.elapsed w.clock / DateTime.perSecond
    (Totp.InYears w.clock → setup.totp.validWindow ≤ now → ∃ key, Totp.keyOf secret = .ok key ∧
      (∀ submitted, Decides setup accounts w id submitted a (Totp.IsRight setup.totp key now submitted)) ∧
      (∀ step : Nat, (now : Int) - setup.totp.validWindow ≤ step → (step : Int) ≤ now + setup.totp.validWindow →
        Totp.IsRight setup.totp key now (Totp.codeAt setup.totp key step)) ∧
      (now = second / setup.totp.interval.toNat ∨
        now = (second + 1) / setup.totp.interval.toNat ∧ 2 ^ 34 ≤ second ∧
          DateTime.perSecond < Totp.elapsed w.clock % DateTime.perSecond + 16)) ∧
    (¬ Totp.InYears w.clock → ∀ submitted, Fails setup accounts w id submitted a (.value .totpTime)) := by
  obtain ⟨key, hkey⟩ := hmade.exists_key
  have husable := usableSecret?_of_isSecret hstored hmade
  refine ⟨fun hyears hwindow => ⟨key, hkey, fun submitted => ?_, fun step => Totp.isRight_codeAt hconfig, ?_⟩,
    fun hout submitted => ?_⟩
  · obtain ⟨right, hverify, hright⟩ := Totp.exists_verify_iff hconfig hyears hwindow hkey submitted
    rw [← hright]
    exact decides hheld hclock ha husable hverify
  · rw [Totp.shownStep]
    obtain heq | ⟨heq, hlate, hend⟩ := Totp.shownSecond_eq hyears
    · exact .inl (by rw [heq])
    · exact .inr ⟨by rw [heq], (Nat.le_div_iff_mul_le (by decide)).2 hlate, hend⟩
  · have hfails := Totp.verify_of_clockSeconds hconfig hkey (Totp.clockSeconds_of_not_inYears hclock hout) submitted
    exact fails hheld hclock ha husable hfails

/-- After a secret was made for the sample, a code of it turns the factor on. -/
theorem totp_acceptance_window_first :
    let made := Account.sample.changed [.totpSecret (some (nextSecret Setup.steady World.sample))]
    let w := ((generate Setup.steady "1").runOn World.sample).2
    Yields ((enable Setup.steady "1" "328482").runOn w) (.ok true)
      (Function.update (Function.update World.sample.account? "1" (some made)) "1"
        (some (made.withFactor true made.credentials.totpSecret)))
      (w.surroundings.logged Setup.steady .mfaEnabled (some "1") none none metadata) := by
  intro made w
  have hconfig : Setup.steady.totp.IsValid := ⟨by decide, by decide, by decide⟩
  have hmade := yields_generate hconfig World.holds_sample rfl World.account?_sample_self
  have haccounts : Holds w.store _ := hmade.accounts
  have hrest : w.surroundings = _ := hmade.rest
  -- no more is needed of the state than the accounts and the clock
  clear_value w
  have hepoch : w.clock = .epoch := congrArg World.clock hrest
  have hyears : Totp.InYears w.clock := by
    rw [hepoch]
    exact ⟨rfl, Nat.le_refl _, by decide⟩
  have hfirst : Totp.shownStep Setup.steady.totp w.clock = 0 := by
    rw [hepoch]
    decide +kernel
  obtain ⟨hserved, -⟩ := totp_acceptance_window hconfig haccounts hyears.utc (Function.update_self ..) rfl
    (isSecret_nextSecret Setup.steady World.sample)
  obtain ⟨key, hkey, hdecides, happ, -⟩ := hserved hyears (Int.natCast_nonneg _)
  have hcode : (Totp.keyOf (nextSecret Setup.steady World.sample)).map (Totp.codeAt Setup.steady.totp · 0) =
      .ok "328482" := by decide +kernel
  rw [hkey] at hcode
  have hshown : Totp.codeAt Setup.steady.totp key 0 = "328482" := Except.ok.inj hcode
  rw [hfirst] at hdecides happ
  refine (hdecides "328482").enables ?_
  rw [← hshown]
  exact happ 0 (by decide) (by decide)

/-! ## The end of a second -/

/-- A secret of draws of zero. -/
def Totp.plainSecret : String := "AAAAAAAAAAAAAAAAAAAAAAAAAAAAAAAA"

theorem Totp.isSecret_plainSecret : IsSecret plainSecret := ⟨List.replicate secretLength 0, rfl, rfl⟩

/-- The last microsecond before a second. -/
def DateTime.momentBefore (second : Nat) (h : second ≤ Totp.secondsEnd) : DateTime :=
  ⟨epoch.wall + second * perSecond - 1, 0, by
    have hspan : wallEnd = epoch.wall + Totp.secondsEnd * perSecond := by decide
    have hpos : 0 < epoch.wall := by decide
    have hle := Nat.mul_le_mul_right perSecond h
    omega, neg_perDay_neg, perDay_pos⟩

/-- The last microsecond of a second, which is also the last one of its step. -/
def DateTime.endOfStep : DateTime := .momentBefore 19885996860 (by decide)

/-- The last microsecond of the last year. -/
def DateTime.endOfYears : DateTime := .momentBefore Totp.secondsEnd (Nat.le_refl _)

/-- The sample with this secret. -/
def Account.enrolled : Account := Account.sample.withFactor false (some Totp.plainSecret)

/-- A state in which this is the only account, at some time. -/
def World.enrolledAt (now : DateTime) : World MemoryStore :=
  { World.sample with clock := now, store := MemoryStore.empty.added .enrolled }

theorem World.holds_enrolledAt (now : DateTime) :
    Holds (World.enrolledAt now).store (MemoryStore.empty.added .enrolled).accounts.get? :=
  holds_of_exact (MemoryStore.exact_single ⟨"user@example.org", by decide +kernel⟩)

/-- In the last microsecond of a step, the code of the step can be refused; and in that of the last year, every code leads
to another error. -/
theorem code_of_the_step_refused :
    Setup.sample.totp.IsValid ∧ Totp.IsSecret Totp.plainSecret ∧
    (Totp.elapsed .endOfStep / DateTime.perSecond / 30 = 662866561 ∧
      (Totp.keyOf Totp.plainSecret).map (Totp.codeAt Setup.sample.totp · 662866561) = .ok "389954" ∧
      ((enable Setup.sample "1" "389954").runOn (World.enrolledAt .endOfStep)).1 = .error (.refused .totpInvalid)) ∧
    ∀ submitted, ((enable Setup.sample "1" submitted).runOn (World.enrolledAt .endOfYears)).1 =
      .error (.value .totpTime) := by
  have hconfig : Setup.sample.totp.IsValid := ⟨by decide, by decide, by decide⟩
  refine ⟨hconfig, Totp.isSecret_plainSecret, ⟨by decide +kernel, by decide +kernel, by decide +kernel⟩, fun submitted => ?_⟩
  obtain ⟨key, hkey⟩ := Totp.isSecret_plainSecret.exists_key
  have hlate : ¬ Totp.InYears .endOfYears := fun h => absurd h.stop (by decide)
  have hfound : (MemoryStore.empty.added .enrolled).accounts.get? "1" = some .enrolled := rfl
  have husable : usableSecret? Account.enrolled.credentials = some Totp.plainSecret :=
    usableSecret?_of_isSecret rfl Totp.isSecret_plainSecret
  have hfails := Totp.verify_of_clockSeconds hconfig hkey (Totp.clockSeconds_of_not_inYears rfl hlate) submitted
  exact (fails (World.holds_enrolledAt _) rfl hfound husable hfails).enableFails.result

end AccountSecurity
