import AccountSecurity.Proofs.Run

/-!
# Credentials that fit together

* `Coherent` : the parts of the credentials of an account agree with each other and with the settings;
* `Coherent.write` : every write of a call keeps them so;
* `Coherent.step` : so does every step of a run, while the end of a lock can be shown;
* `credentials_coherent` : **every account of every run**, and the failures that this rules out.
-/

namespace AccountSecurity
open World

/-- The parts of the credentials agree with each other and with the settings. -/
structure Coherent (setup : Setup) (a : Account) : Prop where
  /-- The SMS factor is on only for a proven number. -/
  sms : a.credentials.smsEnabled → a.credentials.phoneVerified ∧ ∃ number, a.phoneNumber = some number ∧ number ≠ ""
  /-- The factor of an authenticator app is on only with a secret. -/
  totp : a.credentials.totpEnabled → ∃ secret, a.credentials.totpSecret = some secret ∧ secret ≠ ""
  /-- A pending code is there with its expiry and its purpose, or nothing is. -/
  slot : a.credentials.otp.expiresAt.isSome = a.credentials.otp.code.isSome ∧
    a.credentials.otp.purpose.isSome = a.credentials.otp.code.isSome
  /-- At the limit of wrong passwords there is a lock, which may have run out. -/
  lock : setup.policy.maxAttempts ≤ a.credentials.loginAttempts → a.credentials.lockedUntil.isSome
  /-- A backup code is marked as used together with the time. -/
  used : ∀ b ∈ a.credentials.backupCodes, b.used = b.usedAt.isSome
  /-- There are no more backup codes than may be kept. -/
  room : (a.credentials.backupCodes.length : Int) ≤ max 0 setup.backup.maxStored

/-- The account is as registration makes it, whether or not its address has been confirmed since. -/
def Account.IsNew (a : Account) : Prop :=
  ∃ passwordHash emailVerified, a.credentials = { passwordHash, emailVerified }

theorem World.isNew_sample : ∀ id a, World.sample.account? id = some a → a.IsNew := by
  intro id a h
  obtain ⟨-, rfl⟩ := World.account?_sample h
  exact ⟨_, true, rfl⟩

/-! ## One write -/

namespace Coherent
variable {setup : Setup} {a a' : Account} {now : DateTime} {op : Operation}

theorem of_isNew (hmax : 1 ≤ setup.policy.maxAttempts) (h : a.IsNew) : Coherent setup a := by
  obtain ⟨passwordHash, emailVerified, hc⟩ := h
  constructor
  · rw [hc]; intro hs; cases hs
  · rw [hc]; intro hs; cases hs
  · rw [hc]; exact ⟨rfl, rfl⟩
  · rw [hc]; intro hm; exact absurd (Int.le_trans hmax hm) (show ¬(1 : Int) ≤ 0 by decide)
  · rw [hc]; intro b hb; cases hb
  · rw [hc]; exact Int.le_max_left 0 _

/-- A right password leaves no lock behind, but neither a count that calls for one. -/
theorem accepted (hmax : 1 ≤ setup.policy.maxAttempts) (h : Coherent setup a) (newHash : Option String) :
    Coherent setup (a.changed (Login.acceptance now a.credentials newHash)) := by
  have hzero : ¬ setup.policy.maxAttempts ≤ 0 := by omega
  unfold Login.acceptance
  by_cases hc : 0 < a.credentials.loginAttempts ∨ a.credentials.lockedUntil.isSome
  · rw [if_pos hc]
    cases newHash <;> exact { h with lock := fun hm => absurd hm hzero }
  · rw [if_neg hc]
    cases newHash <;> exact { h with }

theorem pending (h : Coherent setup a) (code : String) (t : DateTime) (purpose : OtpPurpose) :
    Coherent setup (a.changed (OtpChallenge.pending code t purpose)) := { h with slot := ⟨rfl, rfl⟩ }

theorem cleared (h : Coherent setup a) : Coherent setup (a.changed CredentialChange.clearOtp) :=
  { h with slot := ⟨rfl, rfl⟩ }

/-- **Every write** of a call keeps the credentials coherent, while the end of a lock can be shown. -/
theorem write (hmax : 1 ≤ setup.policy.maxAttempts) (hnow : (now.addMinutes? setup.policy.lockMinutes).isSome)
    (h : Coherent setup a) (hw : Write setup now op a a') : Coherent setup a' := by
  cases hw with
  | rejected n hn => exact { h with lock := fun hm => absurd hm (by simpa [Account.counted] using hn) }
  | locked n t _ => exact { h with lock := fun _ => rfl }
  | unlockable n hnone => rw [hnone] at hnow; cases hnow
  | accepted newHash => exact h.accepted hmax newHash
  | challenged code t => exact h.pending ..
  | finished => exact { h with }
  | issued code t => exact h.pending ..
  | swept _ hcode =>
    have hs := h.slot
    rw [hcode] at hs
    refine { h with slot := ⟨?_, ?_⟩ }
    · show false = a.credentials.otp.code.isSome
      rw [hcode]; rfl
    · show a.credentials.otp.purpose.isSome = a.credentials.otp.code.isSome
      rw [hcode]; exact hs.2
  | expired _ => exact h.cleared
  | verified _ =>
    rename_i purpose _
    cases purpose with
    | loginChallenge => exact h.cleared
    | phoneVerification => exact { h with slot := ⟨rfl, rfl⟩, sms := fun hs => ⟨rfl, (h.sms hs).2⟩ }
  | cleared => exact h.cleared
  | moved => exact { h with sms := fun hs => nomatch hs }
  | initiated code t => exact h.pending ..
  | smsEnabled hn hv => exact { h with sms := fun _ => ⟨hv, OtpChallenge.nonempty?_isSome.1 hn⟩ }
  | smsDisabled => exact { h with sms := fun hs => nomatch hs }
  | smsCleared => exact h.cleared
  | secretMade draws hl => exact { h with totp := fun _ => ⟨_, rfl, TotpFactor.secretOf_ne_empty hl⟩ }
  | totpEnabled hu => exact { h with totp := fun _ => TotpFactor.usableSecret?_isSome.1 hu }
  | totpDisabled => exact { h with totp := fun hs => nomatch hs }
  | codeMade text hk =>
    rename_i kept
    obtain ⟨hsub, hroom⟩ := BackupVault.of_makeRoom hk
    refine { h with used := fun b hb => ?_, room := ?_ }
    · rcases List.mem_append.1 (show b ∈ kept ++ [BackupCode.ofText text now] from hb) with hb | hb
      · exact h.used b (hsub hb)
      · rw [List.mem_singleton.1 hb]; rfl
    · show ((kept ++ [BackupCode.ofText text now]).length : Int) ≤ _
      rw [List.length_append, List.length_singleton]
      omega
  | codeSpent i =>
    refine { h with used := fun b hb => ?_, room := ?_ }
    · obtain hb | ⟨c, -, rfl⟩ := BackupVault.mem_modify_spent hb
      · exact h.used b hb
      · rfl
    · show ((a.credentials.backupCodes.modify i (·.spentAt now)).length : Int) ≤ _
      rw [List.length_modify]
      exact h.room

/-! ## Runs -/

variable {S : Type} [AccountStore S] [LawfulStore S] {w v : World S} {es : List (Entry S)}

theorem step (hmax : 1 ≤ setup.policy.maxAttempts) (h : v.Sound)
    (hnow : (v.clock.addMinutes? setup.policy.lockMinutes).isSome) (s : Step)
    (hall : ∀ id a, v.account? id = some a → Coherent setup a) (id : String) (a : Account)
    (ha : (s.run setup v).2.account? id = some a) : Coherent setup a := by
  refine step_all h s (fun _ _ _ _ hc hw => hc.write hmax hnow hw) ?_ (fun _ hc => { hc with }) hall id a ha
  rintro _ b ⟨_, passwordHash, -, -, hb⟩
  exact of_isNew hmax ⟨passwordHash, false, hb⟩

theorem run (hmax : 1 ≤ setup.policy.maxAttempts) (hw : w.Sound)
    (hnew : ∀ id a, w.account? id = some a → a.IsNew) (hr : Run setup w es v)
    (hnow : ∀ e ∈ es, (e.before.clock.addMinutes? setup.policy.lockMinutes).isSome) (id : String) (a : Account)
    (ha : v.account? id = some a) : Coherent setup a := by
  induction hr generalizing id a with
  | start => exact of_isNew hmax (hnew id a ha)
  | @step es v hr s ih =>
    refine step hmax (hr.sound hw) ?_ s (ih ?_) id a ha
    · exact hnow (.of setup s v) (List.mem_append_right _ (List.mem_singleton_self _))
    · exact fun e he => hnow e (List.mem_append_left _ he)

end Coherent

/-! ## The failures that are ruled out -/

variable {S : Type} [AccountStore S] [LawfulStore S] {setup : Setup} {w v : World S} {es : List (Entry S)}

/-- A code that is sent to a number never lacks one. -/
theorem OtpChallenge.issue_ne_invariantViolation (h : v.Sound) (config : OtpConfig) (id : String) (purpose : OtpPurpose)
    {number : String} (hn : number ≠ "") (gap : PhoneGap) :
    ((issue setup config id purpose (some number)).runOn v).1 ≠ .error (.refused (.invariantViolation gap)) := by
  have hsome : (nonempty? (some number)) = some number := by simp [nonempty?, hn]
  have hends := ends_issue h setup config id purpose (some number)
  generalize (issue setup config id purpose (some number)).runOn v = r at hends ⊢
  intro he
  cases hends with
  | numberless ha hno =>
    rw [hsome] at hno
    cases hno
  | _ => cases he

/-- While accounts are coherent a login never finds an SMS factor without a number. -/
theorem Login.login_ne_invariantViolation (h : v.Sound) (hall : ∀ id a, v.account? id = some a → Coherent setup a)
    (identifier password : String) (c : Option RequestContext) (gap : PhoneGap) :
    ((login setup identifier password c).runOn v).1 ≠ .error (.refused (.invariantViolation gap)) := by
  have hends := ends_login setup h identifier password c
  generalize (login setup identifier password c).runOn v = r at hends ⊢
  -- an active SMS factor has a number
  have hnumber : ∀ a, v.account? a.id = some a → smsActive a.credentials →
      ∃ n, n ≠ "" ∧ OtpChallenge.nonempty? a.phoneNumber = some n := fun a ha hs => by
    obtain ⟨n, hn, hne⟩ := ((hall _ _ ha).sms (Bool.and_eq_true_iff.1 hs).1).2
    exact ⟨n, hne, by simp [hn, OtpChallenge.nonempty?, hne]⟩
  intro heq
  cases hends with
  | broken hf hl hx =>
    cases heq
    exact hx _ rfl
  | @numberless a newHash hc he hs hno =>
    obtain ⟨n, -, hn⟩ := hnumber a (hc.account? h) hs
    rw [hn] at hno
    cases hno
  | @challenged a newHash n hc he hs hn =>
    obtain ⟨n', hne, hn'⟩ := hnumber a (hc.account? h) hs
    rw [hn] at hn'
    cases hn'
    exact OtpChallenge.issue_ne_invariantViolation (hc.sound h) setup.otp a.id .loginChallenge hne gap
      (Operation.map_eq_error.1 heq)
  | @opened a newHash hc he hs =>
    rw [Operation.map_eq_error, runOn_complete (hc.sound h)] at heq
    split at heq <;> cases heq
  | _ => cases heq

/-- The call is about codes of authenticator apps. -/
def Operation.isTotp : Operation → Bool
  | generateTotp _ | enableTotp .. | disableTotp .. | validateTotp .. => true
  | _ => false

/-- While accounts are coherent no factor of an authenticator app is on without a secret. -/
theorem Operation.totp_ne_incomplete (h : v.Sound) (hall : ∀ id a, v.account? id = some a → Coherent setup a)
    {op : Operation} (ht : op.isTotp) : (op.run setup v).1 ≠ .error (.refused .incompleteTwoFactor) := by
  have hu : ∀ id a, v.account? id = some a → a.credentials.totpEnabled →
      TotpFactor.usableSecret? a.credentials ≠ none := fun id a ha he hn => by
    have hs := TotpFactor.usableSecret?_isSome.2 ((hall id a ha).totp he)
    rw [hn] at hs
    cases hs
  cases op with
  | generateTotp id =>
    rw [Ne, show (generateTotp id).run setup v = _ from Action.runOn_map .., map_eq_error, TotpFactor.runOn_generate h]
    cases v.account? id with
    | none => simp
    | some a =>
      cases hc : Totp.checkConfig setup.totp with
      | error f =>
        intro he
        cases he
        exact TotpFactor.checkConfig_ne_refused _ _ hc
      | ok _ => simp
  | enableTotp id code =>
    rw [Ne, show (enableTotp id code).run setup v = _ from Action.runOn_map .., map_eq_error, TotpFactor.runOn_enable h]
    cases v.account? id with
    | none => simp
    | some a =>
      dsimp only
      cases TotpFactor.usableSecret? a.credentials with
      | none => simp
      | some secret =>
        dsimp only
        rcases hv : Totp.verify setup.totp secret code v.clock with f | ⟨_ | _⟩
        · intro he
          cases he
          exact TotpFactor.verify_ne_refused _ _ _ _ _ hv
        · simp
        · simp
  | disableTotp id code =>
    rw [Ne, show (disableTotp id code).run setup v = _ from Action.runOn_map .., map_eq_error,
      TotpFactor.runOn_disable h]
    cases ha : v.account? id with
    | none => simp
    | some a =>
      dsimp only
      split
      · simp
      · next hon =>
        cases hs : TotpFactor.usableSecret? a.credentials with
        | none => exact absurd hs (hu id a ha (by simpa using hon))
        | some secret =>
          dsimp only
          rcases hv : Totp.verify setup.totp secret code v.clock with f | ⟨_ | _⟩
          · intro he
            cases he
            exact TotpFactor.verify_ne_refused _ _ _ _ _ hv
          · simp
          · simp
  | validateTotp id code =>
    rw [Ne, show (validateTotp id code).run setup v = _ from Action.runOn_map .., map_eq_error,
      TotpFactor.runOn_validate h]
    cases ha : v.account? id with
    | none => simp
    | some a =>
      dsimp only
      split
      · simp
      · next hon =>
        cases hs : TotpFactor.usableSecret? a.credentials with
        | none => exact absurd hs (hu id a ha (by simpa using hon))
        | some secret =>
          dsimp only
          rcases hv : Totp.verify setup.totp secret code v.clock with f | ⟨_ | _⟩
          · intro he
            cases he
            exact TotpFactor.verify_ne_refused _ _ _ _ _ hv
          · simp
          · simp
  | _ => cases ht

/-- **Every account of every run** has coherent credentials. So no login finds an SMS factor without a number, and
no call about an authenticator app a factor without a secret. -/
theorem credentials_coherent (hmax : 1 ≤ setup.policy.maxAttempts) (hw : w.Sound)
    (hnew : ∀ id a, w.account? id = some a → a.IsNew) (hr : Run setup w es v)
    (hnow : ∀ e ∈ es, (e.before.clock.addMinutes? setup.policy.lockMinutes).isSome) :
    (∀ id a, v.account? id = some a → Coherent setup a) ∧
    ∀ e ∈ es, (∀ identifier password c, e.step = .call (.login identifier password c) →
        ∀ gap, e.result ≠ .error (.refused (.invariantViolation gap))) ∧
      ∀ op : Operation, e.step = .call op → op.isTotp → e.result ≠ .error (.refused .incompleteTwoFactor) := by
  refine ⟨Coherent.run hmax hw hnew hr hnow, fun e he => ?_⟩
  obtain ⟨pre, post, hs⟩ := List.append_of_mem he
  obtain ⟨hpre, ho⟩ := hr.split hs
  have hsound := hpre.sound hw
  have hall : ∀ id a, e.before.account? id = some a → Coherent setup a :=
    Coherent.run hmax hw hnew hpre fun e' he' => hnow e' (hs ▸ List.mem_append_left _ he')
  constructor
  · intro identifier password c hstep gap
    rw [ho, hstep]
    show ((Operation.login identifier password c).run setup e.before).1 ≠ _
    rw [Operation.run_login setup hsound, Ne, Operation.map_eq_error]
    exact Login.login_ne_invariantViolation hsound hall identifier password c gap
  · intro op hstep ht
    rw [ho, hstep]
    exact Operation.totp_ne_incomplete hsound hall ht

/-- An account after its number was proven and a login went through both steps. -/
theorem credentials_coherent_smsSession :
    ∃ a, (World.sample.through Setup.sample Step.smsSession).account? "1" = some a ∧
      a.credentials.phoneVerified ∧ a.credentials.smsEnabled ∧ a.credentials.otp = {} ∧
      a.credentials.lastLogin = some .epoch ∧ Coherent Setup.sample a := by
  have hcalls : ∀ s ∈ Step.smsSession, ∃ op, s = .call op := by
    simp [Step.smsSession, Step.activation, Step.completion]
  have hnow : ∀ e ∈ entriesOf Setup.sample World.sample Step.smsSession,
      (e.before.clock.addMinutes? Setup.sample.policy.lockMinutes).isSome := by
    intro e he
    rw [(clock_entriesOf World.sound_sample hcalls e he).1]
    decide +kernel
  have hpart : (World.sample.through Setup.sample Step.smsSession).part? (fun a => (a.credentials.phoneVerified,
      a.credentials.smsEnabled, a.credentials.otp, a.credentials.lastLogin)) "1" =
        some (true, true, {}, some .epoch) := by
    rw [World.through_smsSession]
    decide +kernel
  obtain ⟨a, ha, hfields⟩ := Option.map_eq_some_iff.1 hpart
  obtain ⟨hphone, hsms, hotp, hlast⟩ : _ ∧ _ ∧ _ ∧ _ := by simpa only [Prod.mk.injEq] using hfields
  exact ⟨a, ha, hphone, hsms, hotp, hlast, (credentials_coherent (by decide) World.sound_sample World.isNew_sample
    (Run.of_steps Setup.sample World.sample Step.smsSession) hnow).1 "1" a ha⟩

end AccountSecurity
