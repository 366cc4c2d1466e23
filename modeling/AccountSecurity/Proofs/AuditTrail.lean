import AccountSecurity.Proofs.Run

/-!
# The audit trail

What a call tells the audit log, by its outcome.

* `Gist` : what an event says, but for its time, the client's details and the metadata;
* `AuditLog.Appends` : a log goes on from another with events of these gists;
* `Operation.told`, `appends_run` : what each call tells the log, which its outcome determines;
* `Entry.marks`, `Entry.countP_told` : the calls that a count of events counts;
* `audit_accounts` : **the log accounts for the outcome of every login, and its counts are those of the calls.**
-/

namespace AccountSecurity
open World

/-! ## Gists -/

/-- What an event says, but for its time, the client's details and the metadata. -/
structure Gist where
  eventType : EventType
  principal : Option String
  success : Bool
  errorCode : Option String
deriving DecidableEq

/-- What an event says. -/
def Event.gist (e : Event) : Gist := ⟨e.eventType, e.principal, e.success, e.errorCode⟩

/-- The gist of an event that reports a success. -/
def Gist.good (eventType : EventType) (principal : Option String) : Gist := ⟨eventType, principal, true, none⟩

/-- The gist of an event that reports an error under the name of its class. -/
def Gist.bad (eventType : EventType) (principal : Option String) (e : SecurityError) : Gist :=
  ⟨eventType, principal, false, some e.errorClass.name⟩

theorem ErrorClass.name_ne_empty (c : ErrorClass) : c.name ≠ "" := by
  cases c <;> decide

/-- An event with a code keeps it. -/
theorem Event.coded_of_code {e : Event} {code : String} (he : e.errorCode = some code) (hne : code ≠ "") :
    e.coded = e := by
  unfold coded
  rw [he]
  exact if_pos (.inr (bne_iff_ne.2 hne))

theorem gist_of_bad (now : DateTime) (t : EventType) (p : Option String) (c : Option RequestContext)
    (e : SecurityError) (m : Json) : (Event.of now t p c (some e.errorClass.name) m).gist = .bad t p e := by
  unfold Event.of
  rw [Event.coded_of_code rfl e.errorClass.name_ne_empty]
  rfl

/-! ## Logs that go on -/

/-- A log goes on from another with events of these gists. -/
def AuditLog.Appends (before after : AuditLog) (gists : List Gist) : Prop :=
  ∃ added : List Event, after.events.toList = before.events.toList ++ added ∧ added.map Event.gist = gists

namespace AuditLog
variable {before between after : AuditLog} {gists gists' : List Gist}

theorem Appends.refl (log : AuditLog) : Appends log log [] := ⟨[], by simp, rfl⟩

theorem Appends.trans (h : Appends before between gists) (h' : Appends between after gists') :
    Appends before after (gists ++ gists') := by
  obtain ⟨added, hevents, rfl⟩ := h
  obtain ⟨added', hevents', rfl⟩ := h'
  exact ⟨added ++ added', by rw [hevents', hevents, List.append_assoc], by rw [List.map_append]⟩

theorem appends_record (log : AuditLog) (e : Event) : Appends log (log.record e) [e.gist] :=
  ⟨[e], by simp [record], rfl⟩

/-- A log that goes on counts what it counted, and the events that were added. -/
theorem Appends.countByType (h : Appends before after gists) (t : EventType) :
    after.countByType t = before.countByType t + gists.countP fun g => g.eventType = t := by
  obtain ⟨added, hevents, rfl⟩ := h
  unfold AuditLog.countByType
  rw [← Array.countP_toList, ← Array.countP_toList, hevents, List.countP_append, List.countP_map]
  rfl

end AuditLog

/-! ## What a call tells the log -/

/-- The type under which a refusal of a login is logged. -/
def SecurityError.failureType : SecurityError → EventType
  | .tooManyAttempts _ => .userLocked
  | .otpNotPending | .otpExpired | .otpInvalid => .mfaFailed
  | _ => .loginFailed

/-- What a failed login or check of a code tells the log: a refusal for want of authority is one event. -/
def Failure.told (principal : Option String) : Failure → List Gist
  | .refused e => if e.errorClass.category = .unauthorized then [.bad e.failureType principal e] else []
  | .fault _ => []

/-- What a failed check of an authenticator app's code tells the log. -/
def Failure.toldTotp (id : String) : Failure → List Gist
  | .refused .totpInvalid => [.bad .mfaFailed (some id) .totpInvalid]
  | _ => []

variable {S : Type} [AccountStore S] [LawfulStore S]

/-- What a call tells the log, by its outcome. -/
def Operation.told (w : World S) : Operation → Except Failure Reply → List Gist
  | login _ _ _, .ok (.loggedIn _ account) => [.good .loginSuccess (some account.id)]
  | login _ _ _, .ok (.challenged id) => [.good .mfaChallengeSent (some id)]
  | login identifier _ _, .error f => f.told ((w.find? identifier).map fun a => a.id)
  | finishLogin _ _ _, .ok (.loggedIn _ account) =>
    [.good .mfaVerified (some account.id), .good .loginSuccess (some account.id)]
  | finishLogin id _ _, .error (.fault _) => [.good .mfaVerified (some id)]
  | finishLogin id _ _, .error f | verifyOtp id _ _, .error f | verifyPhone id _, .error f => f.told (some id)
  | verifyOtp id _ _, .ok _ | verifyPhone id _, .ok _ => [.good .mfaVerified (some id)]
  | refresh _ _, .ok _ => [.good .tokenRefreshed none]
  | logout _ _, .ok _ => [.good .logout none]
  | register _, .ok (.view account) => [.good .userCreated (some account.id)]
  | issueOtp id _ _, .ok _ | initiatePhone id _, .ok _ => [.good .mfaChallengeSent (some id)]
  | enableSms id, .ok _ | enableTotp id _, .ok _ => [.good .mfaEnabled (some id)]
  | disableSms id, .ok _ | disableTotp id _, .ok _ => [.good .mfaDisabled (some id)]
  | enableTotp id _, .error f | disableTotp id _, .error f => f.toldTotp id
  | validateTotp id _, .ok (.flag false) => [.bad .mfaFailed (some id) .totpInvalid]
  | validateTotp id _, .ok (.flag true) =>
    if (w.account? id).any fun a => a.credentials.totpEnabled then [.good .mfaVerified (some id)] else []
  | generateBackup id, .ok _ => [.good .backupCodeGenerated (some id)]
  | verifyBackup id _, .ok (.flag true) => [.good .backupCodeUsed (some id)]
  | verifyBackup id _, .ok (.flag false) =>
    if (w.account? id).any fun a => a.credentials.totpEnabled && !a.credentials.backupCodes.isEmpty then
      [.bad .mfaFailed (some id) .backupCodeInvalid]
    else []
  | _, _ => []

/-- A check of an authenticator app's code that fails otherwise than by a wrong code tells the log nothing. -/
theorem appends_of_verify {config : TotpConfig} {secret submitted : String} {now : DateTime} {f : Failure}
    (hv : Totp.verify config secret submitted now = .error f) (id : String) (log : AuditLog) :
    log.Appends log (f.toldTotp id) := by
  cases f with
  | refused e => exact absurd hv (TotpFactor.verify_ne_refused _ _ _ _ _)
  | fault f => exact .refl log

section Told
variable {setup : Setup} {w v : World S} {log : AuditLog} {gists : List Gist} (hlog : setup.audited)
include hlog

omit [AccountStore S] [LawfulStore S] in
theorem appends_good (hl : log.Appends v.audit gists) (t : EventType) (p : Option String)
    (c : Option RequestContext) (m : List (String × Json)) :
    log.Appends (v.logged setup t p c none m).audit (gists ++ [.good t p]) := by
  refine hl.trans ?_
  unfold logged
  rw [if_pos hlog]
  exact AuditLog.appends_record ..

omit [AccountStore S] [LawfulStore S] in
theorem appends_bad (hl : log.Appends v.audit gists) (t : EventType) (p : Option String)
    (c : Option RequestContext) (e : SecurityError) (m : List (String × Json)) :
    log.Appends (v.logged setup t p c (some e) m).audit (gists ++ [.bad t p e]) := by
  refine hl.trans ?_
  unfold logged
  rw [if_pos hlog, Option.map_some, ← gist_of_bad v.clock t p c e (.object m)]
  exact AuditLog.appends_record ..

variable (h : w.Sound)
include h

/-- Issuing a code tells the log when the code was sent, and nothing else. -/
theorem appends_issue (config : OtpConfig) (id : String) (purpose : OtpPurpose) (number : Option String) :
    (∃ v, (OtpChallenge.issue setup config id purpose number).runOn w = (.ok (), v) ∧
      w.audit.Appends v.audit [.good .mfaChallengeSent (some id)]) ∨
    ∃ f v, (OtpChallenge.issue setup config id purpose number).runOn w = (.error f, v) ∧
      (∀ p, f.told p = []) ∧ w.audit.Appends v.audit [] := by
  have hends := OtpChallenge.ends_issue h setup config id purpose number
  generalize (OtpChallenge.issue setup config id purpose number).runOn w = r at hends ⊢
  have hkept := AuditLog.Appends.refl w.audit
  cases hends with
  | missing ha => exact .inr ⟨_, _, rfl, fun _ => rfl, hkept⟩
  | numberless ha hn => exact .inr ⟨_, _, rfl, fun _ => rfl, hkept⟩
  | undrawn hd => exact .inr ⟨_, _, rfl, fun _ => rfl, hkept⟩
  | endless ht => exact .inr ⟨_, _, rfl, fun _ => rfl, hkept⟩
  | undelivered hs ho => exact .inr ⟨_, _, rfl, fun _ => rfl, hkept⟩
  | sent hs hn ho => exact .inl ⟨_, rfl, appends_good hlog hkept ..⟩

/-- Opening a session tells the log of the login. -/
theorem appends_complete (a : Account) (c : Option RequestContext) :
    (∃ tokens v, (Login.complete setup a c).runOn w = (.ok (tokens, a.view), v) ∧
      w.audit.Appends v.audit [.good .loginSuccess (some a.id)]) ∨
    ∃ f v, (Login.complete setup a c).runOn w = (.error (.fault f), v) ∧ w.audit.Appends v.audit [] := by
  have hkept := AuditLog.Appends.refl w.audit
  rw [Login.runOn_complete h]
  cases TokenIssuer.nextSession? setup a.view w with
  | none => exact .inr ⟨_, _, rfl, hkept⟩
  | some s => exact .inl ⟨_, _, rfl, appends_good hlog hkept ..⟩

/-- Checking a code tells the log whether it was accepted, and if not, why. -/
theorem appends_verify (id submitted : String) (purpose : OtpPurpose) :
    (∃ a v, (OtpChallenge.verify setup id submitted purpose).runOn w = (.ok a, v) ∧
      w.audit.Appends v.audit [.good .mfaVerified (some id)]) ∨
    ∃ e v, (OtpChallenge.verify setup id submitted purpose).runOn w = (.error (.refused e), v) ∧
      w.audit.Appends v.audit ((Failure.refused e).told (some id)) := by
  have hends := OtpChallenge.ends_verify h setup id submitted purpose
  generalize (OtpChallenge.verify setup id submitted purpose).runOn w = r at hends ⊢
  have hkept := AuditLog.Appends.refl w.audit
  cases hends with
  | missing ha => exact .inr ⟨_, _, rfl, hkept⟩
  | @notPending a ha hp =>
    have hswept : w.audit.Appends (OtpChallenge.swept id a.credentials.otp w).audit [] := by
      unfold OtpChallenge.swept
      split <;> exact hkept
    exact .inr ⟨_, _, rfl, appends_bad hlog hswept ..⟩
  | expired ha hp he => exact .inr ⟨_, _, rfl, appends_bad hlog hkept ..⟩
  | invalid ha hp he hc => exact .inr ⟨_, _, rfl, appends_bad hlog hkept ..⟩
  | accepted ha hp he => exact .inl ⟨_, _, rfl, appends_good hlog hkept ..⟩

theorem appends_login (identifier password : String) (c : Option RequestContext) :
    w.audit.Appends ((Operation.login identifier password c).run setup w).2.audit
      ((Operation.login identifier password c).told w ((Operation.login identifier password c).run setup w).1) := by
  rw [Operation.run_login setup h]
  have hends := Login.ends_login setup h identifier password c
  generalize (Login.login setup identifier password c).runOn w = r at hends ⊢
  have hkept := AuditLog.Appends.refl w.audit
  -- a refusal tells the log under the account that was found
  have htold : ∀ (f : Failure) (v : World S),
      w.audit.Appends v.audit (f.told ((w.find? identifier).map fun a => a.id)) →
      w.audit.Appends v.audit ((Operation.login identifier password c).told w (.error f)) := fun _ _ hl => hl
  cases hends with
  | unknown hf =>
    refine htold _ _ ?_
    rw [hf]
    exact appends_bad hlog hkept ..
  | locked hf hl =>
    refine htold _ _ ?_
    rw [hf]
    exact appends_bad hlog hkept ..
  | @broken a f hf hl hx =>
    refine htold _ _ ?_
    cases f with
    | refused e => exact absurd rfl (hx e)
    | fault f => exact hkept
  | rejected hc hm =>
    refine htold _ _ ?_
    rw [hc.found]
    exact appends_bad hlog hkept ..
  | lockedOut hc hm ht =>
    refine htold _ _ ?_
    rw [hc.found]
    exact appends_bad hlog hkept ..
  | endless hc hm ht => exact htold _ _ hkept
  | unverified hc he =>
    refine htold _ _ ?_
    rw [hc.found]
    exact appends_bad hlog hkept ..
  | numberless hc he hs hn => exact htold _ _ hkept
  | @challenged a newHash n hc he hs hn =>
    obtain ⟨v, hr, hl⟩ | ⟨f, v, hr, hf, hl⟩ :=
      appends_issue hlog (hc.sound h) setup.otp a.id .loginChallenge (some n)
    · rw [hr]
      exact hl
    · rw [hr]
      exact htold f v (by rw [hf]; exact hl)
  | @opened a newHash hc he hs =>
    obtain ⟨tokens, v, hr, hl⟩ | ⟨f, v, hr, hl⟩ := appends_complete hlog (hc.sound h) a c
    · rw [hr]
      exact hl
    · rw [hr]
      exact hl

theorem appends_finish (id code : String) (c : Option RequestContext) :
    w.audit.Appends ((Operation.finishLogin id code c).run setup w).2.audit
      ((Operation.finishLogin id code c).told w ((Operation.finishLogin id code c).run setup w).1) := by
  rw [Operation.run_finishLogin setup h, Login.runOn_finish h]
  obtain ⟨a, v, hr, hl⟩ | ⟨e, v, hr, hl⟩ := appends_verify hlog h id code .loginChallenge
  · rw [hr]
    obtain ⟨hv, hb, -⟩ := OtpChallenge.account?_of_verify_ok h hr
    obtain rfl : a.id = id := id_of_account? h (OtpChallenge.of_runOn_verify_ok h hr).1
    obtain ⟨tokens, v', hr', hl'⟩ | ⟨f, v', hr', hl'⟩ :=
      appends_complete hlog (hv.changed hb (Login.storable_lastLogin h.clock)) a c
    · dsimp only
      rw [hr']
      exact hl.trans hl'
    · dsimp only
      rw [hr']
      exact hl.trans hl'
  · rw [hr]
    exact hl

theorem appends_refresh (token : String) (c : Option RequestContext) :
    w.audit.Appends ((Operation.refresh token c).run setup w).2.audit
      ((Operation.refresh token c).told w ((Operation.refresh token c).run setup w).1) := by
  rw [Operation.run_refresh setup h, Login.runOn_loginRefresh h]
  have hkept : w.audit.Appends ((TokenIssuer.refresh setup token).runOn w).2.audit [] := by
    rw [TokenIssuer.runOn_refresh h]
    (repeat' split) <;> exact AuditLog.Appends.refl w.audit
  rcases hr : (TokenIssuer.refresh setup token).runOn w with ⟨f | tokens, v⟩
  · rw [hr] at hkept
    exact hkept
  · rw [hr] at hkept
    exact appends_good hlog hkept ..

theorem appends_register (r : Login.Registration) :
    w.audit.Appends ((Operation.register r).run setup w).2.audit
      ((Operation.register r).told w ((Operation.register r).run setup w).1) := by
  have hr : (Operation.register r).run setup w = _ := Action.runOn_map ..
  rw [hr, Login.runOn_register h]
  have hkept := AuditLog.Appends.refl w.audit
  have ht : (Login.tookId w).Sound := h.congr rfl rfl
  cases w.find? (Text.fold r.email) with
  | some _ => exact hkept
  | none =>
    cases setup.hasher.hash setup.sources.salts r.password with
    | error f => exact hkept
    | ok passwordHash =>
      dsimp only
      obtain ⟨e, he⟩ | ⟨hc, -⟩ := runOn_enroll ht
        (show (Login.newAccount setup r passwordHash w).credentials = { passwordHash } from rfl)
      · rw [he]
        exact hkept
      · rw [hc]
        exact appends_good hlog hkept ..

theorem appends_enableTotp (id code : String) :
    w.audit.Appends ((Operation.enableTotp id code).run setup w).2.audit
      ((Operation.enableTotp id code).told w ((Operation.enableTotp id code).run setup w).1) := by
  rw [Operation.run_enableTotp setup, TotpFactor.runOn_enable h]
  have hkept := AuditLog.Appends.refl w.audit
  cases w.account? id with
  | none => exact hkept
  | some a =>
    dsimp only
    cases TotpFactor.usableSecret? a.credentials with
    | none => exact hkept
    | some secret =>
      dsimp only
      rcases hv : Totp.verify setup.totp secret code w.clock with f | ⟨_ | _⟩
      · exact appends_of_verify hv id w.audit
      · exact appends_bad hlog hkept ..
      · exact appends_good hlog hkept ..

theorem appends_disableTotp (id code : String) :
    w.audit.Appends ((Operation.disableTotp id code).run setup w).2.audit
      ((Operation.disableTotp id code).told w ((Operation.disableTotp id code).run setup w).1) := by
  rw [Operation.run_disableTotp setup, TotpFactor.runOn_disable h]
  have hkept := AuditLog.Appends.refl w.audit
  cases w.account? id with
  | none => exact hkept
  | some a =>
    dsimp only
    split
    · exact hkept
    · cases TotpFactor.usableSecret? a.credentials with
      | none => exact hkept
      | some secret =>
        dsimp only
        rcases hv : Totp.verify setup.totp secret code w.clock with f | ⟨_ | _⟩
        · exact appends_of_verify hv id w.audit
        · exact appends_bad hlog hkept ..
        · exact appends_good hlog hkept ..

theorem appends_validateTotp (id code : String) :
    w.audit.Appends ((Operation.validateTotp id code).run setup w).2.audit
      ((Operation.validateTotp id code).told w ((Operation.validateTotp id code).run setup w).1) := by
  have hr : (Operation.validateTotp id code).run setup w = _ := Action.runOn_map ..
  rw [hr, TotpFactor.runOn_validate h]
  have hkept := AuditLog.Appends.refl w.audit
  cases ha : w.account? id with
  | none => exact hkept
  | some a =>
    have htrue : (Operation.validateTotp id code).told w (.ok (.flag true)) =
        if a.credentials.totpEnabled then [.good .mfaVerified (some id)] else [] := by
      simp only [Operation.told, ha, Option.any_some]
    dsimp only
    cases he : a.credentials.totpEnabled with
    | false =>
      change w.audit.Appends w.audit ((Operation.validateTotp id code).told w (.ok (.flag true)))
      rw [htrue, he]
      exact hkept
    | true =>
      rw [if_neg (by simp)]
      cases TotpFactor.usableSecret? a.credentials with
      | none => exact hkept
      | some secret =>
        dsimp only
        rcases Totp.verify setup.totp secret code w.clock with f | ⟨_ | _⟩
        · exact hkept
        · exact appends_bad hlog hkept ..
        · change w.audit.Appends _ ((Operation.validateTotp id code).told w (.ok (.flag true)))
          rw [htrue, he]
          exact appends_good hlog hkept ..

theorem appends_verifyBackup (id code : String) :
    w.audit.Appends ((Operation.verifyBackup id code).run setup w).2.audit
      ((Operation.verifyBackup id code).told w ((Operation.verifyBackup id code).run setup w).1) := by
  rw [Operation.run_verifyBackup setup, BackupVault.runOn_verify h]
  have hkept := AuditLog.Appends.refl w.audit
  cases ha : w.account? id with
  | none => exact hkept
  | some a =>
    have hfalse : (Operation.verifyBackup id code).told w (.ok (.flag false)) =
        if a.credentials.totpEnabled && !a.credentials.backupCodes.isEmpty then
          [.bad .mfaFailed (some id) .backupCodeInvalid]
        else [] := by
      simp only [Operation.told, ha, Option.any_some]
    dsimp only
    by_cases hoff : !a.credentials.totpEnabled ∨ a.credentials.backupCodes.isEmpty
    · rw [if_pos hoff]
      change w.audit.Appends w.audit ((Operation.verifyBackup id code).told w (.ok (.flag false)))
      rw [hfalse, if_neg (by grind)]
      exact hkept
    · rw [if_neg hoff]
      rcases BackupVault.findUnused? code a.credentials.backupCodes with f | _ | i
      · exact hkept
      · change w.audit.Appends _ ((Operation.verifyBackup id code).told w (.ok (.flag false)))
        rw [hfalse, if_pos (by grind)]
        exact appends_bad hlog hkept ..
      · exact appends_good hlog hkept ..

/-- **Every call** tells the log what its outcome says. -/
theorem appends_run (op : Operation) :
    w.audit.Appends (op.run setup w).2.audit (op.told w (op.run setup w).1) := by
  have hkept := AuditLog.Appends.refl w.audit
  cases op with
  | login identifier password c => exact appends_login hlog h identifier password c
  | finishLogin id code c => exact appends_finish hlog h id code c
  | refresh token c => exact appends_refresh hlog h token c
  | logout token c =>
    rw [Operation.run_logout setup h, Login.runOn_logout h]
    exact appends_good hlog hkept ..
  | register r => exact appends_register hlog h r
  | issueOtp id purpose number =>
    rw [Operation.run_issueOtp]
    obtain ⟨v, hr, hl⟩ | ⟨f, v, hr, -, hl⟩ := appends_issue hlog h setup.otp id purpose number
    · rw [hr]; exact hl
    · rw [hr]; exact hl
  | verifyOtp id code purpose =>
    rw [Operation.run_verifyOtp]
    obtain ⟨a, v, hr, hl⟩ | ⟨e, v, hr, hl⟩ := appends_verify hlog h id code purpose
    · rw [hr]; exact hl
    · rw [hr]; exact hl
  | clearOtp id =>
    rw [Operation.run_clearOtp, OtpChallenge.runOn_clear h]
    cases w.account? id <;> exact hkept
  | initiatePhone id number =>
    rw [Operation.run_initiatePhone, SmsFactor.runOn_initiate h]
    cases ha : w.account? id with
    | none => exact hkept
    | some a =>
      have hmoved : w.audit.Appends (SmsFactor.moved id number a w).audit [] := by
        unfold SmsFactor.moved
        split <;> exact hkept
      obtain ⟨v, hr, hl⟩ | ⟨f, v, hr, -, hl⟩ := appends_issue hlog (SmsFactor.sound_moved h ha number) setup.phoneOtp id
        .phoneVerification (some number)
      · dsimp only
        rw [hr]
        exact hmoved.trans hl
      · dsimp only
        rw [hr]
        exact hmoved.trans hl
  | verifyPhone id code =>
    rw [Operation.run_verifyPhone]
    obtain ⟨a, v, hr, hl⟩ | ⟨e, v, hr, hl⟩ := appends_verify hlog h id code .phoneVerification
    · rw [hr]; exact hl
    · rw [hr]; exact hl
  | enableSms id =>
    have hr : (Operation.enableSms id).run setup w = _ := Action.runOn_map ..
    rw [hr, SmsFactor.runOn_enable h]
    cases w.account? id with
    | none => exact hkept
    | some a =>
      dsimp only
      split
      · exact hkept
      · exact appends_good hlog hkept ..
  | disableSms id =>
    have hr : (Operation.disableSms id).run setup w = _ := Action.runOn_map ..
    rw [hr, SmsFactor.runOn_disable h]
    cases w.account? id with
    | none => exact hkept
    | some a =>
      dsimp only
      split
      · exact hkept
      · exact appends_good hlog hkept ..
  | generateTotp id =>
    rw [Operation.run_generateTotp, TotpFactor.runOn_generate h]
    (repeat' split) <;> exact hkept
  | enableTotp id code => exact appends_enableTotp hlog h id code
  | disableTotp id code => exact appends_disableTotp hlog h id code
  | validateTotp id code => exact appends_validateTotp hlog h id code
  | generateBackup id =>
    rw [Operation.run_generateBackup]
    have hends := BackupVault.ends_generate h setup id
    generalize (BackupVault.generate setup id).runOn w = r at hends ⊢
    cases hends with
    | failed => exact hkept
    | made ha he hk => exact appends_good hlog hkept ..
  | verifyBackup id code => exact appends_verifyBackup hlog h id code
  | remainingBackup id =>
    rw [Operation.run_remainingBackup, BackupVault.runOn_remaining h]
    (repeat' split) <;> exact hkept

end Told

/-! ## Counting -/

/-- The types of events that count calls. -/
def EventType.counting : List EventType :=
  [.backupCodeUsed, .backupCodeGenerated, .userCreated, .mfaEnabled, .mfaDisabled]

/-- The call, with its outcome, is one that the events of a type count. -/
def Operation.marks (t : EventType) : Operation → Except Failure Reply → Bool
  | verifyBackup _ _, .ok (.flag true) => t = .backupCodeUsed
  | generateBackup _, .ok _ => t = .backupCodeGenerated
  | register _, .ok (.view _) => t = .userCreated
  | enableTotp _ _, .ok _ | enableSms _, .ok _ => t = .mfaEnabled
  | disableTotp _ _, .ok _ | disableSms _, .ok _ => t = .mfaDisabled
  | _, _ => false

/-- The number of events of a type among what a call tells the log. -/
def Gist.count (t : EventType) (gists : List Gist) : Nat := gists.countP fun g => g.eventType = t

section Count
variable {t : EventType}

theorem count_good (t' : EventType) (p : Option String) :
    Gist.count t [.good t' p] = if decide (t = t') then 1 else 0 := by
  by_cases h : t = t'
  · simp [Gist.count, Gist.good, h]
  · simp [Gist.count, Gist.good, h, Ne.symm h]

variable (ht : t ∈ EventType.counting)
include ht

/-- Events of other types are not counted. -/
theorem count_other {gists : List Gist} (h : (gists.any fun g => g.eventType ∈ EventType.counting) = false) :
    Gist.count t gists = 0 := by
  refine List.countP_eq_zero.2 fun g hg hgt => ?_
  have hno := List.any_eq_false.1 h g hg
  rw [of_decide_eq_true hgt, decide_eq_true ht] at hno
  exact hno rfl

theorem count_ite {gists : List Gist} {b : Prop} [Decidable b]
    (h : (gists.any fun g => g.eventType ∈ EventType.counting) = false) :
    Gist.count t (if b then gists else []) = 0 := by
  split
  · exact count_other ht h
  · rfl

theorem count_told (p : Option String) (f : Failure) : Gist.count t (f.told p) = 0 := by
  refine count_other ht ?_
  cases f with
  | refused e => cases e <;> rfl
  | fault f => rfl

theorem count_toldTotp (id : String) (f : Failure) : Gist.count t (f.toldTotp id) = 0 := by
  refine count_other ht ?_
  cases f with
  | refused e => cases e <;> rfl
  | fault f => rfl

/-- What a call tells the log has one event of a counting type when the call is one that they count. -/
theorem Operation.count_told (w : World S) (op : Operation) (r : Except Failure Reply) :
    Gist.count t (op.told w r) = if op.marks t r then 1 else 0 := by
  cases r with
  | error f =>
    cases op with
    | login identifier password c => exact AccountSecurity.count_told ht _ f
    | finishLogin id code c =>
      cases f with
      | refused e => exact AccountSecurity.count_told ht (some id) (.refused e)
      | fault f => exact count_other ht rfl
    | verifyOtp id code purpose => exact AccountSecurity.count_told ht _ f
    | verifyPhone id code => exact AccountSecurity.count_told ht _ f
    | enableTotp id code => exact count_toldTotp ht id f
    | disableTotp id code => exact count_toldTotp ht id f
    | _ => rfl
  | ok reply =>
    cases op with
    | enableSms id => exact count_good ..
    | enableTotp id code => exact count_good ..
    | disableSms id => exact count_good ..
    | disableTotp id code => exact count_good ..
    | generateBackup id => exact count_good ..
    | register r =>
      cases reply with
      | view account => exact count_good ..
      | _ => rfl
    | verifyBackup id code =>
      cases reply with
      | flag value =>
        cases value with
        | true => exact count_good ..
        | false => exact count_ite ht rfl
      | _ => rfl
    | validateTotp id code =>
      cases reply with
      | flag value =>
        cases value with
        | true => exact count_ite ht rfl
        | false => exact count_other ht rfl
      | _ => rfl
    | login identifier password c =>
      cases reply with
      | loggedIn | challenged => exact count_other ht rfl
      | _ => rfl
    | finishLogin id code c =>
      cases reply with
      | loggedIn => exact count_other ht rfl
      | _ => rfl
    | refresh | logout | issueOtp | initiatePhone | verifyOtp | verifyPhone => exact count_other ht rfl
    | _ => rfl

end Count

/-! ## Runs -/

section Run
variable {setup : Setup} {w v : World S} {es : List (Entry S)}

/-- The step of the entry is a call that the events of a type count. -/
def Entry.marks (t : EventType) (e : Entry S) : Bool :=
  match e.step with
  | .call op => op.marks t e.result
  | _ => false

/-- What the entry tells the log. -/
def Entry.told (e : Entry S) : List Gist :=
  match e.step with
  | .call op => op.told e.before e.result
  | _ => []

/-- Only calls tell the log anything. -/
theorem appends_step (hlog : setup.audited) (h : v.Sound) (s : Step) :
    v.audit.Appends (Entry.of setup s v).after.audit (Entry.of setup s v).told := by
  cases s with
  | call op => exact appends_run hlog h op
  | clock now => exact .refl _
  | outage o => exact .refl _
  | confirmEmail id =>
    rw [Entry.of_after, run_confirmEmail h]
    cases v.account? id <;> exact .refl _

theorem count_step {t : EventType} (ht : t ∈ EventType.counting) (s : Step) :
    Gist.count t (Entry.of setup s v).told = if (Entry.of setup s v).marks t then 1 else 0 := by
  cases s with
  | call op => exact op.count_told ht v _
  | clock now => rfl
  | outage o => rfl
  | confirmEmail id => rfl

/-- Over a run the events of a counting type are as many as the calls that they count. -/
theorem count_run_marks (hlog : setup.audited) (hw : w.Sound) (hr : Run setup w es v) {t : EventType}
    (ht : t ∈ EventType.counting) : v.audit.countByType t = w.audit.countByType t + es.countP (Entry.marks t) := by
  induction hr with
  | start => rfl
  | @step es v hr s ih =>
    have hstep := (appends_step hlog (hr.sound hw) s).countByType t
    rw [hstep, ih, List.countP_append, List.countP_singleton, ← count_step ht s, Nat.add_assoc]
    rfl

/-- The events of a login or of its SMS step, for the account under which a refusal is logged and the events that come
before the one of a success. -/
structure Entry.Accounted (e : Entry S) (principal : Option String) (proofs : AccountView → List Gist) : Prop where
  success : ∀ tokens account, e.result = .ok (.loggedIn tokens account) →
    e.before.audit.Appends e.after.audit (proofs account ++ [.good .loginSuccess (some account.id)])
  unauthorized : ∀ err : SecurityError, e.result = .error (.refused err) → err.errorClass.category = .unauthorized →
    e.before.audit.Appends e.after.audit [.bad err.failureType principal err]
  challenged : ∀ id, e.result = .ok (.challenged id) →
    e.before.audit.Appends e.after.audit [.good .mfaChallengeSent (some id)]
  silent : ∀ err : SecurityError, e.result = .error (.refused err) →
    err.errorClass.category = .internal ∨ err.errorClass.category = .notFound →
    e.before.audit.Appends e.after.audit []

omit [AccountStore S] [LawfulStore S] in
/-- An entry is accounted for when its outcome determines what it tells the log. -/
theorem Entry.Accounted.of_told {e : Entry S} {principal : Option String} {proofs : AccountView → List Gist}
    {told : Except Failure Reply → List Gist} (h : e.before.audit.Appends e.after.audit (told e.result))
    (hs : ∀ tokens account, told (.ok (.loggedIn tokens account)) =
      proofs account ++ [.good .loginSuccess (some account.id)])
    (hf : ∀ err, told (.error (.refused err)) = (Failure.refused err).told principal)
    (hc : ∀ id, e.result = .ok (.challenged id) → told (.ok (.challenged id)) = [.good .mfaChallengeSent (some id)]) :
    e.Accounted principal proofs := by
  refine ⟨fun tokens account hr => ?_, fun err hr hclass => ?_, fun id hr => ?_, fun err hr hclass => ?_⟩
  · rw [hr, hs] at h
    exact h
  · have hone : (Failure.refused err).told principal = [.bad err.failureType principal err] := if_pos hclass
    rw [hr, hf, hone] at h
    exact h
  · rw [hr, hc id hr] at h
    exact h
  · have hnone : (Failure.refused err).told principal = [] := if_neg (by obtain hc | hc := hclass <;> simp [hc])
    rw [hr, hf, hnone] at h
    exact h

theorem accounted_login (hlog : setup.audited) (h : v.Sound) (identifier password : String)
    (c : Option RequestContext) :
    (Entry.of setup (.call (.login identifier password c)) v).Accounted
      ((v.find? identifier).map fun a => a.id) fun _ => [] :=
  .of_told (appends_run hlog h _) (fun _ _ => rfl) (fun _ => rfl) fun _ _ => rfl

theorem accounted_finish (hlog : setup.audited) (h : v.Sound) (id code : String) (c : Option RequestContext) :
    (Entry.of setup (.call (.finishLogin id code c)) v).Accounted (some id)
      fun account => [.good .mfaVerified (some account.id)] := by
  refine .of_told (appends_run hlog h _) (fun _ _ => rfl) (fun _ => rfl) fun id' hr => ?_
  -- the SMS step sends no code
  have hrun := congrArg Prod.fst (Operation.run_finishLogin setup h id code c)
  rw [show ((Operation.finishLogin id code c).run setup v).1 = _ from hr] at hrun
  cases hx : ((Login.finish setup id code c).runOn v).1 with
  | error f => rw [hx] at hrun; cases hrun
  | ok r => rw [hx] at hrun; cases hrun

/-- **The log accounts for the outcome of every login, and its counts are those of the calls.** A login or its SMS step
that opens a session adds one event of the login, after one of the accepted code; a refusal for want of authority adds
one event with the name of its class, under the account that was found; a challenge adds one event; internal refusals
and missing accounts add none. Over the run, the events for backup codes, registrations and factors are as many as
the calls that succeeded. -/
theorem audit_accounts (hlog : setup.audited) (hw : w.Sound) (hr : Run setup w es v) :
    (∀ e ∈ es, ∀ identifier password c, e.step = .call (.login identifier password c) →
      e.Accounted ((e.before.find? identifier).map fun a => a.id) fun _ => []) ∧
    (∀ e ∈ es, ∀ id code c, e.step = .call (.finishLogin id code c) →
      e.Accounted (some id) fun account => [.good .mfaVerified (some account.id)]) ∧
    ∀ t ∈ EventType.counting, v.audit.countByType t = w.audit.countByType t + es.countP (Entry.marks t) := by
  refine ⟨fun e he identifier password c hs => ?_, fun e he id code c hs => ?_, fun t ht => ?_⟩
  · obtain ⟨hb, ho⟩ := hr.of_mem hw he
    rw [hs] at ho
    rw [ho]
    exact accounted_login hlog hb identifier password c
  · obtain ⟨hb, ho⟩ := hr.of_mem hw he
    rw [hs] at ho
    rw [ho]
    exact accounted_finish hlog hb id code c
  · exact count_run_marks hlog hw hr ht

end Run

/-- A login with a second factor: the log is told of the code that was sent, of a wrong code, and of the right one and
the session, and it counts the factor that was turned on. -/
theorem audit_accounts_smsSession :
    ∃ login wrong right, (entriesOf Setup.sample World.sample Step.smsSession)[3]? = some login ∧
      (entriesOf Setup.sample World.sample Step.smsSession)[4]? = some wrong ∧
      (entriesOf Setup.sample World.sample Step.smsSession)[5]? = some right ∧
      login.before.audit.Appends login.after.audit [.good .mfaChallengeSent (some "1")] ∧
      wrong.before.audit.Appends wrong.after.audit [.bad .mfaFailed (some "1") .otpInvalid] ∧
      right.before.audit.Appends right.after.audit [.good .mfaVerified (some "1"), .good .loginSuccess (some "1")] ∧
      (World.sample.through Setup.sample Step.smsSession).audit.countByType .mfaEnabled = 1 := by
  obtain ⟨hlogin, hfinish, hcount⟩ :=
    audit_accounts rfl World.sound_sample (Run.of_steps Setup.sample World.sample Step.smsSession)
  have hmarks : (entriesOf Setup.sample World.sample Step.smsSession).countP (Entry.marks .mfaEnabled) = 1 := by
    rw [entriesOf_smsSession, List.countP_append, List.countP_cons]
    rfl
  obtain ⟨login, hl, hlstep, hlresult⟩ : ∃ e, (entriesOf Setup.sample World.sample Step.smsSession)[3]? = some e ∧
      e.step = .call (.login "user@example.org" "password" none) ∧ e.result = .ok (.challenged "1") := by
    rw [entriesOf_smsSession]
    exact ⟨_, rfl, rfl, by rw [Entry.of_result, Step.run_call, World.run_guarded]⟩
  obtain ⟨wrong, hw, hwstep, hwresult⟩ : ∃ e, (entriesOf Setup.sample World.sample Step.smsSession)[4]? = some e ∧
      e.step = .call (.finishLogin "1" "000000" none) ∧ e.result = .error (.refused .otpInvalid) := by
    rw [entriesOf_smsSession]
    exact ⟨_, rfl, rfl, rfl⟩
  obtain ⟨right, tokens, hr, hrstep, hrresult⟩ : ∃ e tokens,
      (entriesOf Setup.sample World.sample Step.smsSession)[5]? = some e ∧
        e.step = .call (.finishLogin "1" "000001" none) ∧ e.result = .ok (.loggedIn tokens Account.sample.view) := by
    rw [entriesOf_smsSession]
    exact ⟨_, _, rfl, rfl, rfl⟩
  refine ⟨login, wrong, right, hl, hw, hr, ?_, ?_, ?_, ?_⟩
  · exact (hlogin login (List.mem_of_getElem? hl) _ _ _ hlstep).challenged "1" hlresult
  · exact (hfinish wrong (List.mem_of_getElem? hw) _ _ _ hwstep).unauthorized _ hwresult rfl
  · exact (hfinish right (List.mem_of_getElem? hr) _ _ _ hrstep).success tokens _ hrresult
  · rw [hcount .mfaEnabled (by decide), hmarks]
    rfl

end AccountSecurity
