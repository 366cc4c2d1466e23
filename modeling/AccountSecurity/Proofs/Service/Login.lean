import AccountSecurity.Proofs.Password.Hasher
import AccountSecurity.Proofs.Service.OtpChallenge
import AccountSecurity.Proofs.Service.TokenIssuer
import AccountSecurity.Service.Login

/-!
# What login and registration do

* `runOn_login` : the order of the checks of a login, up to the password;
* `Compared`, `Admitted` : a login whose password is compared, and one whose password is right;
* `runOn_countFailure` : a wrong password;
* `runOn_proceed` : what follows a right one;
* `Ends`, `ends_login` : how a login ends, on the whole;
* `runOn_finish` : the SMS step;
* `runOn_loginRefresh`, `runOn_logout` : the tokens of a session;
* `runOn_register` : a new account.
-/

namespace AccountSecurity.Login
open World LawfulStore
variable {S : Type} [AccountStore S] [LawfulStore S] {w : World S} {a : Account}

theorem runOn_loginRefuse {α : Type} (h : w.Sound) (setup : Setup) (t : EventType) (p : Option String)
    (c : Option RequestContext) (e : SecurityError) (m : List (String × Json)) :
    (refuse setup t p c e m : Op S α).runOn w = (.error (.refused e), w.logged setup t p c (some e) m) :=
  Action.runOn_bind_of_ok (runOn_record h ..)

theorem runOn_complete (h : w.Sound) (setup : Setup) (a : Account) (c : Option RequestContext) :
    (complete setup a c).runOn w =
      match TokenIssuer.nextSession? setup a.view w with
      | none => (.error (.fault .timeRange), w.tookTokens)
      | some s => (.ok (TokenIssuer.nextTokens setup w, a.view),
          (w.tookTokens.opened (TokenIssuer.nextTokens setup w).refreshToken s).logged setup .loginSuccess (some a.id) c
            none []) := by
  unfold complete
  rw [Action.runOn_bind, TokenIssuer.runOn_issue h]
  cases TokenIssuer.nextSession? setup a.view w with
  | none => rfl
  | some s => exact Action.runOn_bind_of_ok (runOn_record (h.tookTokens.opened ..) ..)

/-! ## Login -/

section Storable
variable {keeps : BackupCode → Prop}

theorem storable_lock {t : DateTime} (h : t.offset = 0) : Storable keeps [.lockedUntil (some t)] := by
  simp [Storable, CredentialChange.Storable, h]

theorem storable_lastLogin {t : DateTime} (h : t.offset = 0) : Storable keeps [.lastLogin (some t)] := by
  simp [Storable, CredentialChange.Storable, h]

theorem storable_loginAcceptance {now : DateTime} (h : now.offset = 0) (c : Credentials) (newHash : Option String) :
    Storable keeps (acceptance now c newHash) := by
  unfold acceptance
  cases newHash <;> split <;> simp [Storable, CredentialChange.Storable, h]

end Storable

/-- A right password is followed by a new time of the login, and perhaps by another hash and another state of the lock.
The rest of the account stays. -/
theorem changed_acceptance (now : DateTime) (a : Account) (newHash : Option String) :
    ∃ (passwordHash : String) (loginAttempts : Int) (lockedUntil : Option DateTime) (noHash noCount : Bool),
      a.changed (acceptance now a.credentials newHash) =
        { a with credentials := { a.credentials with
            passwordHash, loginAttempts, lockedUntil, lastLogin := some now
            gaps := { a.credentials.gaps with passwordHash := noHash, loginAttempts := noCount } } } := by
  unfold acceptance
  cases newHash <;> split <;> exact ⟨_, _, _, _, _, rfl⟩

/-- A right password leaves the slot for SMS codes alone. -/
theorem otp_acceptance (now : DateTime) (a : Account) (newHash : Option String) :
    (a.changed (acceptance now a.credentials newHash)).credentials.otp = a.credentials.otp := by
  obtain ⟨_, _, _, _, _, h⟩ := changed_acceptance now a newHash
  rw [h]

/-- A wrong password is counted; from the limit on it locks the account, if the end of the lock can be shown. -/
theorem runOn_countFailure (α : Type) (h : w.Sound) (setup : Setup) (ha : w.account? a.id = some a)
    (hg : a.credentials.gaps.loginAttempts = false) (c : Option RequestContext) :
    ∃ n, n = countKept S (a.credentials.loginAttempts + 1) ∧
      (w.counted a.id).Sound ∧
      (w.counted a.id).account? = Function.update w.account? a.id (some (a.counted n)) ∧
      (countFailure setup a c : Op S α).runOn w =
        if setup.policy.maxAttempts ≤ n then
          match w.clock.addMinutes? setup.policy.lockMinutes with
          | none => (.error (.fault .timeRange), w.counted a.id)
          | some t => (.error (.refused (.tooManyAttempts setup.policy.lockMinutes)),
              ((w.counted a.id).changed a.id [.lockedUntil (some t)]).logged setup .userLocked (some a.id) c
                (some (.tooManyAttempts setup.policy.lockMinutes)) [("login_attempts", .int n)])
        else (.error (.refused .invalidCredentials), (w.counted a.id).logged setup .loginFailed (some a.id) c
          (some .invalidCredentials) [("login_attempts", .int n)]) := by
  obtain ⟨n, hr, hs, hl, hn⟩ := runOn_count h ha hg
  refine ⟨n, hn, hs, hl, ?_⟩
  have ha' : (w.counted a.id).account? a.id = some (a.counted n) := by rw [hl, Function.update_self]
  unfold countFailure
  rw [Action.runOn_bind_of_ok hr]
  dsimp only
  split
  · rw [Action.runOn_bind, runOn_minutesFromNow hs, counted_clock]
    cases ht : w.clock.addMinutes? setup.policy.lockMinutes with
    | none => rfl
    | some t =>
      have hk : Storable (LawfulStore.Keeps S) _ := storable_lock ((DateTime.offset_of_addMinutes ht).trans h.clock)
      rw [Action.runOn_orFail_some]
      dsimp only
      rw [Action.runOn_bind_of_ok (runOn_changeCredentials hs ha' hk)]
      exact runOn_loginRefuse (hs.changed ha' hk) ..
  · exact runOn_loginRefuse hs ..

theorem runOn_countFailure_gap {α : Type} (h : w.Sound) (setup : Setup) (ha : w.account? a.id = some a)
    (hg : a.credentials.gaps.loginAttempts) (c : Option RequestContext) :
    (countFailure setup a c : Op S α).runOn w = (.error (.fault .wrongKind), w) :=
  Action.runOn_bind_of_error (runOn_count_gap h ha hg)

/-- An accepted hash that need not be replaced stays. -/
theorem upgradedHash_of_current {setup : Setup} {stored : String}
    (hn : setup.hasher.needsRehash stored = .ok false) (password : String) :
    upgradedHash setup stored password = .ok none := by
  unfold upgradedHash
  rw [hn]
  rfl

/-- A password that is too long for a new hash keeps the old one. -/
theorem upgradedHash_ne_refused (setup : Setup) (stored password : String) (e : SecurityError) :
    upgradedHash setup stored password ≠ .error (.refused e) := by
  intro h
  unfold upgradedHash at h
  cases hn : setup.hasher.needsRehash stored with
  | error f =>
    rw [hn] at h
    cases h
    exact Hasher.needsRehash_ne_refused _ _ _ hn
  | ok b =>
    rw [hn] at h
    cases b with
    | false => cases h
    | true =>
      simp only [bind, Except.bind, if_true] at h
      split at h
      · cases h
      · cases h
      · next f hlen hf =>
        cases h
        obtain ⟨n, rfl⟩ := Hasher.length_of_hash_refused hf
        exact hlen n rfl

/-- The hash of an accepted password can be told to be kept or replaced. -/
theorem upgradedHash_of_isHash {setup : Setup} (hu : setup.hasher.IsUsable setup.sources.salts) {stored : String}
    (hs : Hasher.IsHash stored) (password : String) :
    ∃ newHash, upgradedHash setup stored password = .ok newHash ∧ ∀ h ∈ newHash, Hasher.IsHash h := by
  obtain ⟨b, hb⟩ := Hasher.needsRehash_of_isHash setup.hasher hs
  unfold upgradedHash
  rw [hb]
  cases b with
  | false => exact ⟨none, rfl, by simp⟩
  | true =>
    obtain ⟨new, hn⟩ | ⟨-, n, hn⟩ := Hasher.hash_of_isUsable hu password
    · simp only [bind, Except.bind, if_true, hn]
      refine ⟨some new, rfl, ?_⟩
      rintro _ ⟨⟩
      exact ⟨_, _, _, hn⟩
    · simp only [bind, Except.bind, if_true, hn]
      exact ⟨none, rfl, by simp⟩

/-- The account asks for a code by SMS at a login. -/
def smsActive (c : Credentials) : Bool := c.smsEnabled && c.phoneVerified

/-- After a right password: the address has to be verified, and an active SMS factor asks for a code. -/
theorem runOn_proceed (h : w.Sound) (setup : Setup) (a : Account) (c : Option RequestContext) :
    (proceed setup a c).runOn w =
      if !a.credentials.emailVerified then (.error (.refused .emailNotVerified),
        w.logged setup .loginFailed (some a.id) c (some .emailNotVerified) [])
      else if smsActive a.credentials then
        match OtpChallenge.nonempty? a.phoneNumber with
        | none => (.error (.refused (.invariantViolation .login)), w)
        | some n =>
          (((OtpChallenge.issue setup setup.otp a.id .loginChallenge (some n)).runOn w).1.map
            fun _ => .challenge a.id, ((OtpChallenge.issue setup setup.otp a.id .loginChallenge (some n)).runOn w).2)
      else (((complete setup a c).runOn w).1.map fun r => .success r.1 r.2, ((complete setup a c).runOn w).2) := by
  unfold proceed smsActive
  dsimp only
  split
  · exact runOn_loginRefuse h ..
  · by_cases hs : a.credentials.smsEnabled ∧ a.credentials.phoneVerified
    · rw [if_pos hs, if_pos (by simpa using hs)]
      cases OtpChallenge.nonempty? a.phoneNumber with
      | none => rfl
      | some n =>
        dsimp only
        rw [Action.runOn_bind]
        rcases (OtpChallenge.issue setup setup.otp a.id .loginChallenge (some n)).runOn w with ⟨⟨⟩ | ⟨⟩, t⟩ <;> rfl
    · rw [if_neg hs, if_neg (by simpa using hs), Action.runOn_bind]
      rcases (complete setup a c).runOn w with ⟨⟨⟩ | ⟨⟩, t⟩ <;> rfl

/-- A login: the account, its lock, the password, and then what the password leads to. -/
theorem runOn_login (h : w.Sound) (setup : Setup) (identifier password : String) (c : Option RequestContext) :
    (login setup identifier password c).runOn w =
      match w.find? identifier with
      | none => (.error (.refused .invalidCredentials),
          w.logged setup .loginFailed none c (some .invalidCredentials) [])
      | some a =>
        if a.credentials.isLocked w.clock then
          (.error (.refused (.accountLocked (a.credentials.remainingLockMinutes w.clock))),
            w.logged setup .loginFailed (some a.id) c
              (some (.accountLocked (a.credentials.remainingLockMinutes w.clock))) [])
        else match Hasher.verify a.credentials.passwordHash password with
          | .error f => (.error f, w)
          | .ok false => (countFailure setup a c).runOn w
          | .ok true =>
            if a.credentials.gaps.loginAttempts then (.error (.fault .wrongKind), w)
            else match upgradedHash setup a.credentials.passwordHash password with
              | .error f => (.error f, w)
              | .ok newHash =>
                (proceed setup a c).runOn (w.changed a.id (acceptance w.clock a.credentials newHash)) := by
  unfold login
  rw [Action.runOn_bind_of_ok (runOn_find h identifier)]
  cases hf : w.find? identifier with
  | none => exact runOn_loginRefuse h ..
  | some a =>
    have ha := account?_of_find? h hf
    dsimp only
    rw [Action.runOn_bind_of_ok (runOn_utcNow h)]
    split
    · exact runOn_loginRefuse h ..
    · rw [Action.runOn_bind, Action.runOn_ofExcept]
      rcases Hasher.verify a.credentials.passwordHash password with f | ⟨_ | _⟩
      · rfl
      · rfl
      · dsimp only
        rw [if_pos rfl]
        split
        · rfl
        · rw [Action.runOn_bind, Action.runOn_ofExcept]
          cases upgradedHash setup a.credentials.passwordHash password with
          | error f => rfl
          | ok newHash =>
            exact Action.runOn_bind_of_ok
              (runOn_changeCredentials h ha (storable_loginAcceptance h.clock a.credentials newHash))

/-! ## How a login ends -/

/-- A login found its account not locked and its count in order; the password is right or wrong. -/
structure Compared (identifier password : String) (w : World S) (a : Account) (right : Bool) : Prop where
  found : w.find? identifier = some a
  unlocked : a.credentials.isLocked w.clock = false
  verdict : Hasher.verify a.credentials.passwordHash password = .ok right
  counted : a.credentials.gaps.loginAttempts = false

/-- A login with the right password has told whether the hash is to be replaced. -/
structure Admitted (setup : Setup) (identifier password : String) (w : World S) (a : Account)
    (newHash : Option String) : Prop extends Compared identifier password w a true where
  upgraded : upgradedHash setup a.credentials.passwordHash password = .ok newHash

/-- A wrong password was counted, as far as the store has room. -/
structure Missed (identifier password : String) (w : World S) (a : Account) (n : Int) : Prop
    extends Compared identifier password w a false where
  count : n = countKept S (a.credentials.loginAttempts + 1)
  sound : (w.counted a.id).Sound
  account : (w.counted a.id).account? = Function.update w.account? a.id (some (a.counted n))

/-- The state after a right password. -/
def admitted (a : Account) (newHash : Option String) (w : World S) : World S :=
  w.changed a.id (acceptance w.clock a.credentials newHash)

/-- How a login ends: the outcome, and the state that it leaves. -/
inductive Ends (setup : Setup) (identifier password : String) (c : Option RequestContext) (w : World S) :
    Except Failure Outcome × World S → Prop
  | unknown (hf : w.find? identifier = none) : Ends setup identifier password c w
      (.error (.refused .invalidCredentials), w.logged setup .loginFailed none c (some .invalidCredentials) [])
  | locked {a : Account} (hf : w.find? identifier = some a) (hl : a.credentials.isLocked w.clock) :
      Ends setup identifier password c w
      (.error (.refused (.accountLocked (a.credentials.remainingLockMinutes w.clock))),
        w.logged setup .loginFailed (some a.id) c
          (some (.accountLocked (a.credentials.remainingLockMinutes w.clock))) [])
  | broken {a : Account} {f : Failure} (hf : w.find? identifier = some a)
      (hl : a.credentials.isLocked w.clock = false) (hx : ∀ e, f ≠ .refused e) :
      Ends setup identifier password c w (.error f, w)
  | rejected {a : Account} {n : Int} (hc : Missed identifier password w a n) (hm : n < setup.policy.maxAttempts) :
      Ends setup identifier password c w (.error (.refused .invalidCredentials),
        (w.counted a.id).logged setup .loginFailed (some a.id) c (some .invalidCredentials)
          [("login_attempts", .int n)])
  | lockedOut {a : Account} {n : Int} {t : DateTime} (hc : Missed identifier password w a n)
      (hm : setup.policy.maxAttempts ≤ n) (ht : w.clock.addMinutes? setup.policy.lockMinutes = some t) :
      Ends setup identifier password c w (.error (.refused (.tooManyAttempts setup.policy.lockMinutes)),
        ((w.counted a.id).changed a.id [.lockedUntil (some t)]).logged setup .userLocked (some a.id) c
          (some (.tooManyAttempts setup.policy.lockMinutes)) [("login_attempts", .int n)])
  | endless {a : Account} {n : Int} (hc : Missed identifier password w a n) (hm : setup.policy.maxAttempts ≤ n)
      (ht : w.clock.addMinutes? setup.policy.lockMinutes = none) :
      Ends setup identifier password c w (.error (.fault .timeRange), w.counted a.id)
  | unverified {a : Account} {newHash : Option String} (hc : Admitted setup identifier password w a newHash)
      (he : a.credentials.emailVerified = false) :
      Ends setup identifier password c w (.error (.refused .emailNotVerified),
        (admitted a newHash w).logged setup .loginFailed (some a.id) c (some .emailNotVerified) [])
  | numberless {a : Account} {newHash : Option String} (hc : Admitted setup identifier password w a newHash)
      (he : a.credentials.emailVerified) (hs : smsActive a.credentials)
      (hn : OtpChallenge.nonempty? a.phoneNumber = none) :
      Ends setup identifier password c w (.error (.refused (.invariantViolation .login)), admitted a newHash w)
  | challenged {a : Account} {newHash : Option String} {n : String}
      (hc : Admitted setup identifier password w a newHash) (he : a.credentials.emailVerified)
      (hs : smsActive a.credentials) (hn : OtpChallenge.nonempty? a.phoneNumber = some n) :
      Ends setup identifier password c w
      (((OtpChallenge.issue setup setup.otp a.id .loginChallenge (some n)).runOn (admitted a newHash w)).1.map
        fun _ => .challenge a.id,
        ((OtpChallenge.issue setup setup.otp a.id .loginChallenge (some n)).runOn (admitted a newHash w)).2)
  | opened {a : Account} {newHash : Option String} (hc : Admitted setup identifier password w a newHash)
      (he : a.credentials.emailVerified) (hs : smsActive a.credentials = false) :
      Ends setup identifier password c w
      (((complete setup a c).runOn (admitted a newHash w)).1.map fun r => .success r.1 r.2,
        ((complete setup a c).runOn (admitted a newHash w)).2)

section Ends
variable {setup : Setup} {identifier password : String} {newHash : Option String} {n : Int}

theorem Compared.account? {right : Bool} (h : w.Sound) (hc : Compared identifier password w a right) :
    w.account? a.id = some a := account?_of_find? h hc.found

theorem Admitted.sound (h : w.Sound) (hc : Admitted setup identifier password w a newHash) :
    (admitted a newHash w).Sound :=
  h.changed (hc.account? h) (storable_loginAcceptance h.clock a.credentials newHash)

theorem Admitted.account?_admitted (h : w.Sound) (hc : Admitted setup identifier password w a newHash) :
    (admitted a newHash w).account? = Function.update w.account? a.id
      (some (a.changed (acceptance w.clock a.credentials newHash))) :=
  account?_changed h (hc.account? h) (storable_loginAcceptance h.clock a.credentials newHash)

/-- Of a locked account no password is compared. -/
theorem runOn_login_locked (h : w.Sound) (hf : w.find? identifier = some a) (hl : a.credentials.isLocked w.clock)
    (setup : Setup) (c : Option RequestContext) :
    (login setup identifier password c).runOn w =
      (.error (.refused (.accountLocked (a.credentials.remainingLockMinutes w.clock))),
        w.logged setup .loginFailed (some a.id) c
          (some (.accountLocked (a.credentials.remainingLockMinutes w.clock))) []) := by
  rw [Login.runOn_login h, hf]
  exact if_pos hl

/-- A wrong password is counted. -/
theorem Compared.runOn_login (h : w.Sound) (hc : Compared identifier password w a false) (setup : Setup)
    (c : Option RequestContext) :
    (login setup identifier password c).runOn w = (countFailure setup a c).runOn w := by
  rw [Login.runOn_login h, hc.found]
  dsimp only
  rw [if_neg (by simp [hc.unlocked]), hc.verdict]

/-- A right password is recorded, and then the login goes on. -/
theorem Admitted.runOn_login (h : w.Sound) (hc : Admitted setup identifier password w a newHash)
    (c : Option RequestContext) :
    (login setup identifier password c).runOn w = (proceed setup a c).runOn (admitted a newHash w) := by
  rw [Login.runOn_login h, hc.found]
  dsimp only
  rw [if_neg (by simp [hc.unlocked]), hc.verdict]
  dsimp only
  rw [if_neg (by simp [hc.counted]), hc.upgraded]
  rfl

/-- The account of a wrong password once it is locked. -/
theorem Missed.account?_lockedOut (hc : Missed identifier password w a n) {t : DateTime}
    (ht : t.offset = 0) :
    ((w.counted a.id).changed a.id [.lockedUntil (some t)]).Sound ∧
      ((w.counted a.id).changed a.id [.lockedUntil (some t)]).account? =
        Function.update w.account? a.id (some ((a.counted n).changed [.lockedUntil (some t)])) := by
  have ha : (w.counted a.id).account? a.id = some (a.counted n) := by rw [hc.account, Function.update_self]
  refine ⟨hc.sound.changed ha (storable_lock ht), ?_⟩
  rw [account?_changed hc.sound ha (storable_lock ht), hc.account, Function.update_idem]

end Ends

/-- **Every login** ends in one of these ways. -/
theorem ends_login (setup : Setup) (h : w.Sound) (identifier password : String) (c : Option RequestContext) :
    Ends setup identifier password c w ((login setup identifier password c).runOn w) := by
  rw [runOn_login h]
  cases hf : w.find? identifier with
  | none => exact .unknown hf
  | some a =>
    have ha := account?_of_find? h hf
    dsimp only
    by_cases hl : a.credentials.isLocked w.clock
    · rw [if_pos hl]
      exact .locked hf hl
    · rw [if_neg hl]
      have hl' : a.credentials.isLocked w.clock = false := by simpa using hl
      rcases hv : Hasher.verify a.credentials.passwordHash password with f | ⟨_ | _⟩
      · refine .broken hf hl' ?_
        rintro e rfl
        exact Hasher.verify_ne_refused _ _ _ hv
      · dsimp only
        by_cases hg : a.credentials.gaps.loginAttempts
        · rw [runOn_countFailure_gap h setup ha hg]
          exact .broken hf hl' nofun
        · have hg' : a.credentials.gaps.loginAttempts = false := by simpa using hg
          obtain ⟨n, hn, hs, hacc, hr⟩ := runOn_countFailure Outcome h setup ha hg' c
          have hc : Missed identifier password w a n := ⟨⟨hf, hl', hv, hg'⟩, hn, hs, hacc⟩
          rw [hr]
          by_cases hm : setup.policy.maxAttempts ≤ n
          · rw [if_pos hm]
            cases ht : w.clock.addMinutes? setup.policy.lockMinutes with
            | none => exact .endless hc hm ht
            | some t => exact .lockedOut hc hm ht
          · rw [if_neg hm]
            exact .rejected hc (by omega)
      · dsimp only
        by_cases hg : a.credentials.gaps.loginAttempts
        · rw [if_pos hg]
          exact .broken hf hl' nofun
        · rw [if_neg hg]
          cases hu : upgradedHash setup a.credentials.passwordHash password with
          | error f =>
            refine .broken hf hl' ?_
            rintro e rfl
            exact upgradedHash_ne_refused _ _ _ _ hu
          | ok newHash =>
            have hc : Admitted setup identifier password w a newHash := ⟨⟨hf, hl', hv, by simpa using hg⟩, hu⟩
            dsimp only
            rw [← admitted, runOn_proceed (hc.sound h)]
            by_cases he : a.credentials.emailVerified
            · rw [if_neg (by simp [he])]
              by_cases hs : smsActive a.credentials
              · rw [if_pos hs]
                cases hn : OtpChallenge.nonempty? a.phoneNumber with
                | none => exact .numberless hc he hs hn
                | some n => exact .challenged hc he hs hn
              · rw [if_neg hs]
                exact .opened hc he (by simpa using hs)
            · rw [if_pos (by simp [he])]
              exact .unverified hc (by simpa using he)

/-! ## The SMS step and the tokens -/

/-- The SMS step: an accepted code is followed by a session. -/
theorem runOn_finish (h : w.Sound) (setup : Setup) (id submitted : String) (c : Option RequestContext) :
    (finish setup id submitted c).runOn w =
      match (OtpChallenge.verify setup id submitted .loginChallenge).runOn w with
      | (.error f, v) => (.error f, v)
      | (.ok a, v) => (complete setup a c).runOn (v.changed id [.lastLogin (some w.clock)]) := by
  unfold finish
  rw [Action.runOn_bind]
  rcases hr : (OtpChallenge.verify setup id submitted .loginChallenge).runOn w with ⟨f | a, v⟩
  · rfl
  · obtain ⟨hv, hb, hclock⟩ := OtpChallenge.account?_of_verify_ok h hr
    dsimp only
    rw [Action.runOn_bind_of_ok (runOn_utcNow hv), hclock]
    exact Action.runOn_bind_of_ok (runOn_changeCredentials hv hb (storable_lastLogin h.clock))

theorem runOn_loginRefresh (h : w.Sound) (setup : Setup) (token : String) (c : Option RequestContext) :
    (refresh setup token c).runOn w =
      match (TokenIssuer.refresh setup token).runOn w with
      | (.error f, v) => (.error f, v)
      | (.ok tokens, v) => (.ok tokens, v.logged setup .tokenRefreshed none c none []) := by
  unfold refresh
  rw [Action.runOn_bind]
  rcases hr : (TokenIssuer.refresh setup token).runOn w with ⟨f | tokens, v⟩
  · rfl
  · have hv : v.Sound := by
      rw [TokenIssuer.runOn_refresh h] at hr
      split at hr
      · cases hr
      · split at hr
        · cases hr
        · split at hr
          · cases hr
          · split at hr
            · cases hr
            · obtain ⟨-, rfl⟩ := Prod.mk.inj hr
              exact ((h.closed _).tookTokens).opened ..
    exact Action.runOn_bind_of_ok (runOn_record hv ..)

theorem runOn_logout (h : w.Sound) (setup : Setup) (token : String) (c : Option RequestContext) :
    (logout setup token c).runOn w = (.ok (w.sessions.get? token).isSome,
      (w.closed token).logged setup .logout none c none [("revoked", .bool (w.sessions.get? token).isSome)]) := by
  unfold logout
  rw [Action.runOn_bind_of_ok (TokenIssuer.runOn_revoke token)]
  exact Action.runOn_bind_of_ok (runOn_record (h.closed token) ..)

/-! ## Registration -/

/-- The state after an identifier was taken. -/
@[simps] def tookId (w : World S) : World S := { w with idsTaken := w.idsTaken + 1 }

/-- The account that a registration makes. -/
def newAccount (setup : Setup) (r : Registration) (passwordHash : String) (w : World S) : Account :=
  { id := setup.sources.accountIds w.idsTaken, email := Text.fold r.email, displayName := r.displayName
    phoneNumber := r.phoneNumber, orgUnitId := r.orgUnitId, credentials := { passwordHash } }

/-- A registration under an address that no account has: the identifier, the hash, and then the account. -/
theorem runOn_register (h : w.Sound) (setup : Setup) (r : Registration) :
    (register setup r).runOn w =
      match w.find? (Text.fold r.email) with
      | some _ => (.error (.refused (.accountExists false)), w)
      | none =>
        match setup.hasher.hash setup.sources.salts r.password with
        | .error f => (.error f, tookId w)
        | .ok passwordHash =>
          match (onStore (AccountStore.create (newAccount setup r passwordHash w))).runOn (tookId w) with
          | (.error f, v) => (.error f, v)
          | (.ok _, v) => (.ok (newAccount setup r passwordHash w).view,
              v.logged setup .userCreated (some (newAccount setup r passwordHash w).id) none none []) := by
  have hi : (nextAccountId setup).runOn w = (.ok (setup.sources.accountIds w.idsTaken), tookId w) := rfl
  have ht : (tookId w).Sound := h.congr rfl rfl
  unfold register
  dsimp only
  rw [Action.runOn_bind_of_ok (runOn_find h _)]
  cases w.find? (Text.fold r.email) with
  | some _ => rfl
  | none =>
    dsimp only
    rw [Action.runOn_bind_of_ok hi, Action.runOn_bind, Action.runOn_ofExcept]
    cases setup.hasher.hash setup.sources.salts r.password with
    | error f => rfl
    | ok passwordHash =>
      dsimp only
      rw [← newAccount, Action.runOn_bind]
      obtain ⟨e, he⟩ | ⟨hr, hs, -⟩ := runOn_enroll ht (show (newAccount setup r passwordHash w).credentials =
        { passwordHash } from rfl)
      · rw [he]
      · rw [hr]
        exact Action.runOn_bind_of_ok (runOn_record hs ..)

end AccountSecurity.Login
