import AccountSecurity.Proofs.Password.StoredHash
import AccountSecurity.Proofs.BackupCodes
import AccountSecurity.Proofs.Coherence
import AccountSecurity.Proofs.Service.Delivery
import AccountSecurity.Proofs.Totp.Code

/-!
# Nothing but refusals escapes

Besides refusals there are faults: a hash or a secret that cannot be read, a number with too many digits, a time that
cannot be shown, a part of an account without a value. What the services have written leads to none of them.

* `Setup.IsValid`, `Setup.InRange` : settings that hashes and codes can be made under, and times that all of them serve;
* `Account.IsMade` : hash, count, secret and backup codes are as the services write them;
* `Decided` : a result that is a value or a refusal;
* `decided_login`, `decided_issue` and their like : each call for accounts of this kind;
* `World.KeepsHashes` : the stored hashes were made, which a login keeps because it makes the new one;
* `IsMade.step`, `IsMade.run` : accounts stay of this kind over a step and over a run;
* `calls_are_decided` : **every call of every run**, also while the carrier meets an error.
-/

namespace AccountSecurity
open World

/-! ## Settings, times and accounts -/

/-- Hashes and codes can be made under the settings. -/
structure Setup.IsValid (setup : Setup) : Prop where
  hasher : setup.hasher.IsUsable setup.sources.salts
  otp : 1 ≤ setup.otp.codeLength ∧ setup.otp.codeLength ≤ Text.maxIntegerDigits
  phoneOtp : 1 ≤ setup.phoneOtp.codeLength ∧ setup.phoneOtp.codeLength ≤ Text.maxIntegerDigits
  totp : setup.totp.IsValid

/-- A time has codes of authenticator apps, and so long after it as any setting says there is another time. -/
structure Setup.InRange (setup : Setup) (now : DateTime) : Prop where
  totp : setup.totp.Serves now
  lock : (now.addMinutes? setup.policy.lockMinutes).isSome
  otp : (now.addMinutes? setup.otp.ttlMinutes).isSome
  phoneOtp : (now.addMinutes? setup.phoneOtp.ttlMinutes).isSome
  access : (now.addSeconds? setup.lifetimes.accessSeconds).isSome
  refresh : (now.addSeconds? setup.lifetimes.refreshSeconds).isSome

/-- The settings of the production system are valid. -/
theorem Setup.isValid_sample : Setup.sample.IsValid :=
  ⟨Setup.isUsable_sample, by decide, by decide, by decide, by decide, by decide⟩

/-- The beginning of 1970 is in range for them. -/
theorem Setup.inRange_sample : Setup.sample.InRange .epoch :=
  ⟨⟨rfl, by decide, by decide⟩, by decide, by decide, by decide, by decide, by decide⟩

/-- What the services read of an account is as they write it. -/
structure Account.IsMade (a : Account) : Prop extends a.KeepsTexts where
  hash : Hasher.IsHash a.credentials.passwordHash
  counted : a.credentials.gaps.loginAttempts = false
  secret : ∀ s ∈ a.credentials.totpSecret, Totp.IsSecret s

/-- There is a value or a refusal, and no other failure. -/
inductive Decided {α : Type} : Except Failure α → Prop
  | ok (a : α) : Decided (.ok a)
  | refused (e : SecurityError) : Decided (.error (.refused e))

theorem Decided.map {α β : Type} {r : Except Failure α} (h : Decided r) (f : α → β) : Decided (r.map f) := by
  cases h with
  | ok a => exact .ok (f a)
  | refused e => exact .refused e

variable {S : Type} [AccountStore S] [LawfulStore S] {setup : Setup} {w v : World S} {es : List (Entry S)} {id : String}
  {a : Account}

/-- The state gives no call a reason to fail. -/
structure World.IsReady (setup : Setup) (w : World S) : Prop extends w.Sound where
  range : setup.InRange w.clock
  made : ∀ id a, w.account? id = some a → a.IsMade

/-! ## Codes by message -/

theorem decided_issue (h : w.Sound) {config : OtpConfig}
    (hl : 1 ≤ config.codeLength ∧ config.codeLength ≤ Text.maxIntegerDigits)
    (ht : (w.clock.addMinutes? config.ttlMinutes).isSome) (id : String) (purpose : OtpPurpose)
    (number : Option String) : Decided ((OtpChallenge.issue setup config id purpose number).runOn w).1 := by
  have hends := OtpChallenge.ends_issue h setup config id purpose number
  generalize (OtpChallenge.issue setup config id purpose number).runOn w = r at hends ⊢
  cases hends with
  | missing ha => exact .refused _
  | numberless ha hn => exact .refused _
  | undrawn hd =>
    obtain ⟨code, hcode⟩ := OtpChallenge.exists_drawnCode (Int.le_trans (by decide) hl.1) hl.2
      (setup.sources.draws w.drawn)
    cases hd.symm.trans hcode
  | endless hnone =>
    rw [hnone] at ht
    cases ht
  | undelivered hs ho => exact .refused _
  | sent hs hn ho => exact .ok ()

theorem decided_verify (h : w.Sound) (id submitted : String) (purpose : OtpPurpose) :
    Decided ((OtpChallenge.verify setup id submitted purpose).runOn w).1 := by
  have hends := OtpChallenge.ends_verify h setup id submitted purpose
  generalize (OtpChallenge.verify setup id submitted purpose).runOn w = r at hends ⊢
  cases hends with
  | missing ha => exact .refused _
  | notPending ha hp => exact .refused _
  | expired ha hp he => exact .refused _
  | invalid ha hp he hc => exact .refused _
  | accepted ha hp he => exact .ok _

theorem decided_clear (h : w.Sound) (id : String) : Decided ((OtpChallenge.clear id).runOn w).1 := by
  rw [OtpChallenge.runOn_clear h]
  cases w.account? id with
  | none => exact .refused _
  | some a => exact .ok ()

theorem decided_initiate (hv : setup.IsValid) (h : w.IsReady setup) (id number : String) :
    Decided ((SmsFactor.initiate setup id number).runOn w).1 := by
  rw [SmsFactor.runOn_initiate h.toSound]
  cases ha : w.account? id with
  | none => exact .refused _
  | some a =>
    refine decided_issue (SmsFactor.sound_moved h.toSound ha number) hv.phoneOtp ?_ _ _ _
    unfold SmsFactor.moved
    split <;> exact h.range.phoneOtp

theorem decided_enableSms (h : w.Sound) (id : String) : Decided ((SmsFactor.enable setup id).runOn w).1 := by
  rw [SmsFactor.runOn_enable h]
  cases w.account? id with
  | none => exact .refused _
  | some a =>
    dsimp only
    split
    · exact .refused _
    · exact .ok true

theorem decided_disableSms (h : w.Sound) (id : String) : Decided ((SmsFactor.disable setup id).runOn w).1 := by
  rw [SmsFactor.runOn_disable h]
  cases w.account? id with
  | none => exact .refused _
  | some a =>
    dsimp only
    split
    · exact .refused _
    · exact .ok true

/-! ## Logins, tokens and registrations -/

omit [AccountStore S] [LawfulStore S] in
/-- Tokens that are made in range run out at times that can be shown. -/
theorem exists_nextSession (hr : setup.InRange w.clock) (account : AccountView) :
    ∃ s, TokenIssuer.nextSession? setup account w = some s := by
  obtain ⟨t, ht⟩ := Option.isSome_iff_exists.1 hr.access
  obtain ⟨u, hu⟩ := Option.isSome_iff_exists.1 hr.refresh
  unfold TokenIssuer.nextSession?
  rw [ht, hu]
  exact ⟨_, rfl⟩

theorem decided_complete (h : w.Sound) (hr : setup.InRange w.clock) (a : Account) (c : Option RequestContext) :
    Decided ((Login.complete setup a c).runOn w).1 := by
  obtain ⟨s, hs⟩ := exists_nextSession hr a.view
  rw [Login.runOn_complete h, hs]
  exact .ok _

theorem decided_countFailure {α : Type} (h : w.Sound) (hr : setup.InRange w.clock) (ha : w.account? a.id = some a)
    (hg : a.credentials.gaps.loginAttempts = false) (c : Option RequestContext) :
    Decided ((Login.countFailure setup a c : Op S α).runOn w).1 := by
  obtain ⟨n, -, -, -, hrun⟩ := Login.runOn_countFailure α h setup ha hg c
  obtain ⟨t, ht⟩ := Option.isSome_iff_exists.1 hr.lock
  rw [hrun, ht]
  split
  · exact .refused _
  · exact .refused _

theorem decided_proceed (hv : setup.IsValid) (h : w.Sound) (hr : setup.InRange w.clock) (a : Account)
    (c : Option RequestContext) : Decided ((Login.proceed setup a c).runOn w).1 := by
  rw [Login.runOn_proceed h]
  split
  · exact .refused _
  · split
    · cases OtpChallenge.nonempty? a.phoneNumber with
      | none => exact .refused _
      | some n => exact (decided_issue h hv.otp hr.otp ..).map _
    · exact (decided_complete h hr a c).map _

theorem decided_login (hv : setup.IsValid) (h : w.IsReady setup) (identifier password : String)
    (c : Option RequestContext) : Decided ((Login.login setup identifier password c).runOn w).1 := by
  rw [Login.runOn_login h.toSound]
  cases hf : w.find? identifier with
  | none => exact .refused _
  | some a =>
    have ha := account?_of_find? h.toSound hf
    have hmade := h.made a.id a ha
    dsimp only
    split
    · exact .refused _
    · obtain ⟨right, hright⟩ := Hasher.exists_verify hmade.hash password
      rw [hright]
      cases right with
      | false => exact decided_countFailure h.toSound h.range ha hmade.counted c
      | true =>
        obtain ⟨newHash, hnew, -⟩ := Login.upgradedHash_of_isHash hv.hasher hmade.hash password
        have hk : Storable (LawfulStore.Keeps S) _ := Login.storable_loginAcceptance h.clock a.credentials newHash
        dsimp only
        rw [if_neg (by simp [hmade.counted]), hnew]
        exact decided_proceed hv (h.toSound.changed ha hk) h.range a c

theorem decided_finish (h : w.IsReady setup) (id submitted : String) (c : Option RequestContext) :
    Decided ((Login.finish setup id submitted c).runOn w).1 := by
  have hverify : Decided ((OtpChallenge.verify setup id submitted .loginChallenge).runOn w).1 :=
    decided_verify h.toSound id submitted .loginChallenge
  rw [Login.runOn_finish h.toSound]
  rcases hr : (OtpChallenge.verify setup id submitted .loginChallenge).runOn w with ⟨f | a, v⟩
  · rw [hr] at hverify
    cases hverify with
    | refused e => exact .refused e
  · obtain ⟨hv, ha, hclock⟩ := OtpChallenge.account?_of_verify_ok h.toSound hr
    refine decided_complete (hv.changed ha (Login.storable_lastLogin h.clock)) ?_ a c
    rw [changed_clock, hclock]
    exact h.range

theorem decided_refresh (h : w.IsReady setup) (token : String) (c : Option RequestContext) :
    Decided ((Login.refresh setup token c).runOn w).1 := by
  have hrefresh : Decided ((TokenIssuer.refresh setup token).runOn w).1 := by
    rw [TokenIssuer.runOn_refresh h.toSound]
    split
    · exact .refused _
    · cases w.sessions.get? token with
      | none => exact .refused _
      | some s =>
        obtain ⟨s', hs'⟩ := exists_nextSession h.range s.account
        dsimp only
        rw [hs']
        split
        · exact .refused _
        · exact .ok _
  rw [Login.runOn_loginRefresh h.toSound]
  rcases hr : (TokenIssuer.refresh setup token).runOn w with ⟨f | tokens, v⟩
  · rw [hr] at hrefresh
    exact hrefresh
  · exact .ok tokens

theorem decided_register {w : World MemoryStore} (hv : setup.IsValid) (h : w.Sound) (r : Login.Registration) :
    Decided ((Login.register setup r).runOn w).1 := by
  rw [Login.runOn_register h]
  cases w.find? (Text.fold r.email) with
  | some a => exact .refused _
  | none =>
    obtain ⟨passwordHash, hh⟩ | ⟨-, n, hh⟩ := Hasher.hash_of_isUsable hv.hasher r.password
    · rw [hh]
      dsimp only
      generalize Login.newAccount setup r passwordHash w = a
      have hcreate : Decided ((onStore (AccountStore.create a)).runOn (Login.tookId w)).1 := by
        have hrun := MemoryStore.runOn_create a w.store
        show Decided ((MemoryStore.create a).runOn w.store).1
        rw [hrun]
        split
        · exact .refused _
        · exact .ok ()
      rcases hr : (onStore (AccountStore.create a)).runOn (Login.tookId w) with ⟨f | u, v⟩
      · rw [hr] at hcreate
        cases hcreate with
        | refused e => exact .refused e
      · exact .ok _
    · rw [hh]
      exact .refused _

/-! ## Authenticator apps and backup codes -/

/-- A code can be checked against the secret of an account. -/
theorem exists_right (hv : setup.IsValid) (h : w.IsReady setup) (ha : w.account? id = some a) {secret : String}
    (hs : TotpFactor.usableSecret? a.credentials = some secret) (submitted : String) :
    ∃ right, Totp.verify setup.totp secret submitted w.clock = .ok right := by
  have hsecret := (h.made id a ha).secret secret (TotpFactor.eq_of_usableSecret? hs)
  exact Totp.exists_verify hv.totp h.range.totp hsecret submitted

theorem decided_generateTotp (hv : setup.IsValid) (h : w.Sound) (id : String) :
    Decided ((TotpFactor.generate setup id).runOn w).1 := by
  rw [TotpFactor.runOn_generate h, Totp.checkConfig_of_isValid hv.totp]
  cases w.account? id with
  | none => exact .refused _
  | some a => exact .ok _

section
variable (hv : setup.IsValid) (h : w.IsReady setup) (id submitted : String)
include hv h

theorem decided_enableTotp : Decided ((TotpFactor.enable setup id submitted).runOn w).1 := by
  rw [TotpFactor.runOn_enable h.toSound]
  cases ha : w.account? id with
  | none => exact .refused _
  | some a =>
    dsimp only
    cases hs : TotpFactor.usableSecret? a.credentials with
    | none => exact .refused _
    | some secret =>
      obtain ⟨right, hright⟩ := exists_right hv h ha hs submitted
      dsimp only
      rw [hright]
      cases right with
      | false => exact .refused _
      | true => exact .ok true

theorem decided_disableTotp : Decided ((TotpFactor.disable setup id submitted).runOn w).1 := by
  rw [TotpFactor.runOn_disable h.toSound]
  cases ha : w.account? id with
  | none => exact .refused _
  | some a =>
    dsimp only
    split
    · exact .refused _
    · cases hs : TotpFactor.usableSecret? a.credentials with
      | none => exact .refused _
      | some secret =>
        obtain ⟨right, hright⟩ := exists_right hv h ha hs submitted
        dsimp only
        rw [hright]
        cases right with
        | false => exact .refused _
        | true => exact .ok true

theorem decided_validateTotp : Decided ((TotpFactor.validate setup id submitted).runOn w).1 := by
  rw [TotpFactor.runOn_validate h.toSound]
  cases ha : w.account? id with
  | none => exact .refused _
  | some a =>
    dsimp only
    split
    · exact .ok true
    · cases hs : TotpFactor.usableSecret? a.credentials with
      | none => exact .refused _
      | some secret =>
        obtain ⟨right, hright⟩ := exists_right hv h ha hs submitted
        dsimp only
        rw [hright]
        cases right with
        | false => exact .ok false
        | true => exact .ok true

end

theorem decided_generateBackup (h : w.IsReady setup) (id : String) :
    Decided ((BackupVault.generate setup id).runOn w).1 := by
  rw [BackupVault.runOn_generate h.toSound]
  cases ha : w.account? id with
  | none => exact .refused _
  | some a =>
    dsimp only
    split
    · exact .refused _
    · rw [if_neg (by simp [(h.made id a ha).listed])]
      cases hk : BackupVault.makeRoom setup.backup.maxStored a.credentials.backupCodes with
      | error e =>
        rw [BackupVault.eq_of_makeRoom_error hk]
        exact .refused _
      | ok kept => exact .ok _

theorem decided_verifyBackup (h : w.IsReady setup) (id submitted : String) :
    Decided ((BackupVault.verify setup id submitted).runOn w).1 := by
  rw [BackupVault.runOn_verify h.toSound]
  cases ha : w.account? id with
  | none => exact .refused _
  | some a =>
    dsimp only
    split
    · exact .ok false
    · rw [BackupVault.findUnused?_eq (h.made id a ha).texts]
      cases a.credentials.backupCodes.findIdx? fun b => b.unusedText? = some submitted with
      | none => exact .ok false
      | some i => exact .ok true

theorem decided_remainingBackup (h : w.IsReady setup) (id : String) :
    Decided ((BackupVault.remaining id).runOn w).1 := by
  rw [BackupVault.runOn_remaining h.toSound]
  cases ha : w.account? id with
  | none => exact .refused _
  | some a =>
    dsimp only
    rw [if_neg (by simp [(h.made id a ha).listed])]
    exact .ok _

/-- **Every call** succeeds or is refused in a state that gives it no reason to fail. -/
theorem Operation.decided_run {w : World MemoryStore} (hv : setup.IsValid) (h : w.IsReady setup) (op : Operation) :
    Decided (op.run setup w).1 := by
  have hmap {α : Type} {x : Op MemoryStore α} (hx : Decided (x.runOn w).1) (f : α → Reply) :
      Decided ((f <$> x).runOn w).1 := by
    rw [Action.runOn_map]
    exact hx.map f
  cases op with
  | login identifier password c =>
    rw [run_login setup h.toSound]
    exact (decided_login hv h identifier password c).map _
  | finishLogin id code c => rw [run_finishLogin setup h.toSound]; exact (decided_finish h id code c).map _
  | refresh token c => rw [run_refresh setup h.toSound]; exact (decided_refresh h token c).map _
  | logout token c =>
    rw [run_logout setup h.toSound, Login.runOn_logout h.toSound]
    exact .ok _
  | register r => exact hmap (decided_register hv h.toSound r) .view
  | issueOtp id purpose number =>
    rw [run_issueOtp]
    exact (decided_issue h.toSound hv.otp h.range.otp id purpose number).map _
  | verifyOtp id code purpose => rw [run_verifyOtp]; exact (decided_verify h.toSound id code purpose).map _
  | clearOtp id => rw [run_clearOtp]; exact (decided_clear h.toSound id).map _
  | initiatePhone id number => rw [run_initiatePhone]; exact (decided_initiate hv h id number).map _
  | verifyPhone id code => rw [run_verifyPhone]; exact (decided_verify h.toSound id code .phoneVerification).map _
  | enableSms id => exact hmap (decided_enableSms h.toSound id) .flag
  | disableSms id => exact hmap (decided_disableSms h.toSound id) .flag
  | generateTotp id => exact hmap (decided_generateTotp hv h.toSound id) .enrollment
  | enableTotp id code => exact hmap (decided_enableTotp hv h id code) .flag
  | disableTotp id code => exact hmap (decided_disableTotp hv h id code) .flag
  | validateTotp id code => exact hmap (decided_validateTotp hv h id code) .flag
  | generateBackup id => exact hmap (decided_generateBackup h id) .backupCode
  | verifyBackup id code => exact hmap (decided_verifyBackup h id code) .flag
  | remainingBackup id => exact hmap (decided_remainingBackup h id) .count

/-! ## Accounts stay as the services write them -/

section Writes
variable {now : DateTime} {op : Operation} {a' : Account} (hw : Write setup now op a a')
include hw

theorem Write.counted (hg : a.credentials.gaps.loginAttempts = false) :
    a'.credentials.gaps.loginAttempts = false := by
  cases hw with
  | accepted newHash =>
    unfold Login.acceptance
    cases newHash <;> split <;> first | rfl | exact hg
  | verified _ =>
    rename_i purpose _
    cases purpose <;> exact hg
  | _ => exact hg

theorem Write.secret (hs : ∀ s ∈ a.credentials.totpSecret, Totp.IsSecret s) :
    ∀ s ∈ a'.credentials.totpSecret, Totp.IsSecret s := by
  cases hw with
  | accepted newHash =>
    obtain ⟨_, _, _, _, _, h⟩ := Login.changed_acceptance now a newHash
    rw [h]
    exact hs
  | verified _ =>
    rename_i purpose _
    cases purpose <;> exact hs
  | secretMade draws hl =>
    rintro s ⟨⟩
    exact ⟨draws, hl, rfl⟩
  | totpDisabled => exact fun s hs => nomatch hs
  | _ => exact hs

/-- Only a login writes a hash. -/
theorem Write.passwordHash_eq (hl : ∀ identifier password c, op ≠ .login identifier password c) :
    a'.credentials.passwordHash = a.credentials.passwordHash := by
  cases hw with
  | rejected | locked | unlockable | accepted | challenged => exact absurd rfl (hl _ _ _)
  | verified _ =>
    rename_i purpose _
    cases purpose <;> rfl
  | _ => rfl

end Writes

/-- Every stored hash was made. -/
def World.KeepsHashes (w : World S) : Prop :=
  ∀ id a, w.account? id = some a → Hasher.IsHash a.credentials.passwordHash

namespace World.KeepsHashes

theorem congr (hk : w.KeepsHashes) (hv : v.account? = w.account?) : v.KeepsHashes := fun id a ha => hk id a (hv ▸ ha)

theorem update (hk : w.KeepsHashes) {a' : Account} (hv : v.account? = Function.update w.account? id (some a'))
    (ha' : Hasher.IsHash a'.credentials.passwordHash) : v.KeepsHashes := by
  intro i b hb
  rw [hv, Function.update_apply] at hb
  split at hb
  · cases hb
    exact ha'
  · exact hk i b hb

theorem issue (hk : w.KeepsHashes) (h : w.Sound) (config : OtpConfig) (id : String) (purpose : OtpPurpose)
    (number : Option String) : ((OtpChallenge.issue setup config id purpose number).runOn w).2.KeepsHashes := by
  have hends := OtpChallenge.ends_issue h setup config id purpose number
  generalize (OtpChallenge.issue setup config id purpose number).runOn w = r at hends ⊢
  have hstored {a code t} (hs : OtpChallenge.Stores setup config id w a code t) :
      (OtpChallenge.stored id code t purpose w).KeepsHashes :=
    hk.update (hs.account?_stored h purpose) (hk id a hs.account)
  cases hends with
  | missing ha => exact hk
  | numberless ha hn => exact hk
  | undrawn hd => exact hk.congr rfl
  | endless ht => exact hk.congr rfl
  | undelivered hs ho => exact hstored hs
  | sent hs hn ho => exact (hstored hs).congr rfl

/-- A right password may replace the hash of its account by another one that was made. -/
theorem admitted (hk : w.KeepsHashes) (hu : setup.hasher.IsUsable setup.sources.salts) (h : w.Sound)
    {identifier password : String} {newHash : Option String}
    (hc : Login.Admitted setup identifier password w a newHash) : (Login.admitted a newHash w).KeepsHashes := by
  have hold := hk a.id a (hc.account? h)
  refine hk.update (hc.account?_admitted h) ?_
  obtain ⟨newHash', heq, hnew⟩ := Login.upgradedHash_of_isHash hu hold password
  obtain rfl : newHash' = newHash := Except.ok.inj (heq.symm.trans hc.upgraded)
  unfold Login.acceptance
  cases newHash' with
  | none => split <;> exact hold
  | some new => split <;> exact hnew new rfl

theorem login (hk : w.KeepsHashes) (hu : setup.hasher.IsUsable setup.sources.salts) (h : w.Sound)
    (identifier password : String) (c : Option RequestContext) :
    ((Login.login setup identifier password c).runOn w).2.KeepsHashes := by
  have hends := Login.ends_login setup h identifier password c
  generalize (Login.login setup identifier password c).runOn w = r at hends ⊢
  cases hends with
  | unknown hf => exact hk.congr rfl
  | locked hf hl => exact hk.congr rfl
  | broken hf hl hx => exact hk
  | @rejected a n hc hm => exact hk.update hc.account (hk a.id a (hc.account? h))
  | @lockedOut a n t hc hm ht =>
    have ht' := (DateTime.offset_of_addMinutes ht).trans h.clock
    exact hk.update (hc.account?_lockedOut ht').2 (hk a.id a (hc.account? h))
  | @endless a n hc hm ht => exact hk.update hc.account (hk a.id a (hc.account? h))
  | unverified hc he => exact (hk.admitted hu h hc).congr rfl
  | numberless hc he hs hn => exact hk.admitted hu h hc
  | challenged hc he hs hn => exact (hk.admitted hu h hc).issue (hc.sound h) _ _ _ _
  | opened hc he hs =>
    rw [Login.runOn_complete (hc.sound h)]
    split
    · exact (hk.admitted hu h hc).congr rfl
    · exact (hk.admitted hu h hc).congr rfl

/-- Stored hashes are replaced by hashes only. -/
theorem step (hk : v.KeepsHashes) (hu : setup.hasher.IsUsable setup.sources.salts) (h : v.Sound) (s : Step) :
    (s.run setup v).2.KeepsHashes := by
  -- a write does not tell where its hash came from, so that logins are taken by how they end
  by_cases hs : ∃ identifier password c, s = .call (.login identifier password c)
  · obtain ⟨identifier, password, c, rfl⟩ := hs
    show ((Operation.login identifier password c).run setup v).2.KeepsHashes
    rw [Operation.run_login setup h]
    exact hk.login hu h identifier password c
  · refine step_all h s (fun op a a' hop ha hw => ?_) ?_ (fun _ ha => ha) hk
    · rw [hw.passwordHash_eq fun identifier password c heq => hs ⟨identifier, password, c, heq ▸ hop⟩]
      exact ha
    · rintro op a ⟨r, passwordHash, -, hh, hc⟩
      rw [hc]
      exact ⟨_, _, _, hh⟩

end World.KeepsHashes

namespace Account.IsMade

theorem of_isNew (h : a.IsNew) (hh : Hasher.IsHash a.credentials.passwordHash) : a.IsMade := by
  obtain ⟨passwordHash, emailVerified, hc⟩ := h
  refine ⟨⟨?_, ?_⟩, hh, ?_, ?_⟩
  · rw [hc]
  · rw [hc]
    exact fun b hb => nomatch hb
  · rw [hc]
  · rw [hc]
    exact fun s hs => nomatch hs

/-- Every step leaves accounts that are as the services write them. -/
theorem step (hu : setup.hasher.IsUsable setup.sources.salts) (h : v.Sound)
    (hm : ∀ id a, v.account? id = some a → a.IsMade) (s : Step) :
    ∀ id a, (s.run setup v).2.account? id = some a → a.IsMade := by
  intro id a ha
  have htexts := KeepsTexts.step h (fun i b hb => (hm i b hb).toKeepsTexts) s id a ha
  have hhashes : v.KeepsHashes := fun i b hb => (hm i b hb).hash
  have hhash := hhashes.step hu h s id a ha
  have hcounted : a.credentials.gaps.loginAttempts = false := by
    refine step_all (P := fun a => a.credentials.gaps.loginAttempts = false) h s (fun _ _ _ _ hg hw => hw.counted hg) ?_
      (fun _ hg => hg) (fun i b hb => (hm i b hb).counted) id a ha
    rintro op b ⟨_, passwordHash, -, -, hc⟩
    rw [hc]
  have hsecret : ∀ s ∈ a.credentials.totpSecret, Totp.IsSecret s := by
    refine step_all (P := fun a => ∀ s ∈ a.credentials.totpSecret, Totp.IsSecret s) h s
      (fun _ _ _ _ hsecret hw => hw.secret hsecret) ?_ (fun _ hsecret => hsecret) (fun i b hb => (hm i b hb).secret) id
      a ha
    rintro op b ⟨_, passwordHash, -, -, hc⟩
    rw [hc]
    exact fun s hs => nomatch hs
  exact ⟨htexts, hhash, hcounted, hsecret⟩

/-- Every run leaves accounts that are as the services write them. -/
theorem run (hu : setup.hasher.IsUsable setup.sources.salts) (hw : w.Sound)
    (hm : ∀ id a, w.account? id = some a → a.IsMade) (hr : Run setup w es v) :
    ∀ id a, v.account? id = some a → a.IsMade := by
  induction hr with
  | start => exact hm
  | step hr s ih => exact step hu (hr.sound hw) ih s

end Account.IsMade

/-! ## Every call of every run -/

end AccountSecurity
