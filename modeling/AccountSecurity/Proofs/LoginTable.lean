import AccountSecurity.Proofs.AuditSecrecy
import AccountSecurity.Proofs.PasswordUpgrade
import AccountSecurity.Proofs.Service.Faithful

/-!
# The decision table of a login

What a login gives in each case, and everything that it changes, in either store.

* `Account.accepted`, `Account.lockedTo`, `Account.challengedBy` : an account after an accepted password, a lock and a code;
* `Login.Replaces` : the hash after an accepted password;
* `Login.Unreplaced` : why there may be none;
* `Login.Rejects`, `Login.Challenges`, `Login.Opens`, `Login.Accepts`, `Login.DecisionTable` : the rows of the table, for a wrong
  password, for a right one that a code or a session follows, and on the whole;
* `Login.changed_acceptance_eq` : an accepted password is recorded as the table says;
* `Login.rejects_login`, `Login.accepts_login` : the rows hold;
* `login_is_its_table` : **a login does what its table says**, and some row applies;
* `lock_without_end` : a lock whose end no calendar shows is not set.
-/

namespace AccountSecurity
open World

/-! ## Accounts after a login -/

/-- The account after an accepted password: no failures, no lock, the time of the login, and a hash. -/
def Account.accepted (a : Account) (now : DateTime) (passwordHash : String) : Account :=
  { a with credentials := { a.credentials with
      passwordHash, loginAttempts := 0, lockedUntil := none, lastLogin := some now } }

/-- The account, locked until some time. -/
def Account.lockedTo (a : Account) (t : DateTime) : Account :=
  { a with credentials := { a.credentials with lockedUntil := some t } }

/-- The account with a pending code for its login. -/
def Account.challengedBy (a : Account) (code : String) (expiresAt : DateTime) : Account :=
  { a with credentials := { a.credentials with
      otp := { code := some code, expiresAt := some expiresAt, purpose := some .loginChallenge } } }

/-- Credentials as registration and logins leave them: the hash was made, the count is not negative, and nothing is
without a value. -/
structure Credentials.InOrder (c : Credentials) : Prop where
  made : Hasher.IsHash c.passwordHash
  attempts : 0 ≤ c.loginAttempts
  complete : c.gaps = {}

namespace Login

/-! ## The table -/

/-- The hash after an accepted password: a new one if the stored one is to be replaced and the hasher takes the password;
otherwise the stored one. -/
def Replaces (setup : Setup) (stored password passwordHash : String) : Prop :=
  (setup.hasher.needsRehash stored = .ok true ∧
      setup.hasher.hash setup.sources.salts password = .ok passwordHash) ∨
    ((setup.hasher.needsRehash stored = .ok false ∨
        ∃ n, setup.hasher.hash setup.sources.salts password = .error (.refused (.passwordTooLong n))) ∧
      passwordHash = stored)

/-- The stored hash is to be replaced, but the settings of the hasher allow no hashes. -/
def Unreplaced (setup : Setup) (stored password : String) (f : Failure) : Prop :=
  setup.hasher.needsRehash stored = .ok true ∧ setup.hasher.hash setup.sources.salts password = .error f ∧
    ∀ e, f ≠ .refused e

variable {S : Type} [AccountStore S] [FaithfulStore S]

section Rows
variable (setup : Setup) (c : Option RequestContext) (accounts : String → Option Account) (rest : World Unit) (a : Account)
  (ended : Except Failure Outcome × World S)

/-- The rows for a wrong password. It is counted; from the limit on it locks the account as well, unless there is no end
of the lock. -/
structure Rejects : Prop where
  counted : a.credentials.loginAttempts + 1 < setup.policy.maxAttempts →
    Yields ended (.error (.refused .invalidCredentials))
      (Function.update accounts a.id (some (a.counted (a.credentials.loginAttempts + 1))))
      (rest.logged setup .loginFailed (some a.id) c (some .invalidCredentials)
        [("login_attempts", .int (a.credentials.loginAttempts + 1))])
  locked : ∀ t, setup.policy.maxAttempts ≤ a.credentials.loginAttempts + 1 →
    rest.clock.addMinutes? setup.policy.lockMinutes = some t →
    Yields ended (.error (.refused (.tooManyAttempts setup.policy.lockMinutes)))
      (Function.update accounts a.id (some ((a.counted (a.credentials.loginAttempts + 1)).lockedTo t)))
      (rest.logged setup .userLocked (some a.id) c (some (.tooManyAttempts setup.policy.lockMinutes))
        [("login_attempts", .int (a.credentials.loginAttempts + 1))])
  endless : setup.policy.maxAttempts ≤ a.credentials.loginAttempts + 1 →
    rest.clock.addMinutes? setup.policy.lockMinutes = none →
    Yields ended (.error (.fault .timeRange))
      (Function.update accounts a.id (some (a.counted (a.credentials.loginAttempts + 1)))) rest

/-- The rows for a code that a login sends to a number: it is drawn, dated and stored, and then it is sent. -/
structure Challenges (number : String) : Prop where
  undrawn : ∀ f, drawnCode setup.otp.codeLength (setup.sources.draws rest.drawn) = .error f →
    Yields ended (.error (.fault f)) (Function.update accounts a.id (some a)) (rest.drew 1)
  undated : ∀ code, drawnCode setup.otp.codeLength (setup.sources.draws rest.drawn) = .ok code →
    rest.clock.addMinutes? setup.otp.ttlMinutes = none →
    Yields ended (.error (.fault .timeRange)) (Function.update accounts a.id (some a)) (rest.drew 1)
  undelivered : ∀ code t outage, drawnCode setup.otp.codeLength (setup.sources.draws rest.drawn) = .ok code →
    rest.clock.addMinutes? setup.otp.ttlMinutes = some t → rest.outage = some outage →
    Yields ended (.error (.refused (.smsDelivery (setup.carrier.problem outage))))
      (Function.update accounts a.id (some (a.challengedBy code t))) (rest.drew 1)
  sent : ∀ code t, drawnCode setup.otp.codeLength (setup.sources.draws rest.drawn) = .ok code →
    rest.clock.addMinutes? setup.otp.ttlMinutes = some t → rest.outage = none →
    Yields ended (.ok (.challenge a.id)) (Function.update accounts a.id (some (a.challengedBy code t)))
      (((rest.drew 1).sent ⟨number, otpMessage setup.otp number code⟩).logged setup .mfaChallengeSent (some a.id) none none
        (OtpChallenge.metadata .loginChallenge))

/-- The rows for the session of a login, which needs the times at which its tokens run out. -/
structure Opens : Prop where
  undated : TokenIssuer.nextSession? setup a.view rest = none →
    Yields ended (.error (.fault .timeRange)) (Function.update accounts a.id (some a)) rest.tookTokens
  opened : ∀ s, TokenIssuer.nextSession? setup a.view rest = some s →
    Yields ended (.ok (.success (TokenIssuer.nextTokens setup rest) a.view)) (Function.update accounts a.id (some a))
      ((rest.tookTokens.opened (TokenIssuer.nextTokens setup rest).refreshToken s).logged setup .loginSuccess (some a.id) c
        none [])

/-- The rows for a right password, by the account in which it is recorded. The address has to be verified; an active SMS
factor needs a number and asks for a code; otherwise a session is opened. -/
structure Accepts : Prop where
  unverified : a.credentials.emailVerified = false →
    Yields ended (.error (.refused .emailNotVerified)) (Function.update accounts a.id (some a))
      (rest.logged setup .loginFailed (some a.id) c (some .emailNotVerified) [])
  numberless : a.credentials.emailVerified → smsActive a.credentials → OtpChallenge.nonempty? a.phoneNumber = none →
    Yields ended (.error (.refused (.invariantViolation .login))) (Function.update accounts a.id (some a)) rest
  challenges : ∀ number, a.credentials.emailVerified → smsActive a.credentials →
    OtpChallenge.nonempty? a.phoneNumber = some number → Challenges setup accounts rest a ended number
  opens : a.credentials.emailVerified → smsActive a.credentials = false → Opens setup c accounts rest a ended

end Rows

/-- An account has the address of a login. -/
structure Found (accounts : String → Option Account) (identifier : String) (a : Account) : Prop where
  account : accounts a.id = some a
  email : a.email = Text.fold identifier

/-- **The decision table** of a login among accounts, with the rest of the state. -/
structure DecisionTable (setup : Setup) (identifier password : String) (c : Option RequestContext)
    (accounts : String → Option Account) (rest : World Unit) (ended : Except Failure Outcome × World S) : Prop where
  unknown : (∀ a, ¬ Found accounts identifier a) →
    Yields ended (.error (.refused .invalidCredentials)) accounts
      (rest.logged setup .loginFailed none c (some .invalidCredentials) [])
  locked : ∀ a, Found accounts identifier a → a.credentials.isLocked rest.clock →
    Yields ended (.error (.refused (.accountLocked (a.credentials.remainingLockMinutes rest.clock)))) accounts
      (rest.logged setup .loginFailed (some a.id) c
        (some (.accountLocked (a.credentials.remainingLockMinutes rest.clock))) [])
  rejected : ∀ a, Found accounts identifier a → a.credentials.isLocked rest.clock = false →
    Hasher.verify a.credentials.passwordHash password = .ok false → Rejects setup c accounts rest a ended
  accepted : ∀ a passwordHash, Found accounts identifier a → a.credentials.isLocked rest.clock = false →
    Hasher.verify a.credentials.passwordHash password = .ok true →
    Replaces setup a.credentials.passwordHash password passwordHash →
    Accepts setup c accounts rest (a.accepted rest.clock passwordHash) ended
  unhashable : ∀ a f, Found accounts identifier a → a.credentials.isLocked rest.clock = false →
    Hasher.verify a.credentials.passwordHash password = .ok true →
    Unreplaced setup a.credentials.passwordHash password f → Yields ended (.error f) accounts rest

/-! ## Accepted passwords -/

/-- The changes of an accepted password set count and lock back, whatever they were. -/
theorem changed_acceptance_eq {a : Account} (hattempts : 0 ≤ a.credentials.loginAttempts)
    (hgap : a.credentials.gaps = {}) (now : DateTime) (newHash : Option String) :
    a.changed (acceptance now a.credentials newHash) =
      a.accepted now (newHash.getD a.credentials.passwordHash) := by
  obtain ⟨view, hash, attempts, lock, _, _, _, _, _, _, _, _, gaps⟩ := a
  dsimp only at hattempts hgap
  subst hgap
  unfold acceptance
  dsimp only
  split
  · cases newHash <;> rfl
  · next hkeep =>
    rw [not_or, Int.not_lt, Bool.not_eq_true, Option.isSome_eq_false_iff, Option.isNone_iff_eq_none] at hkeep
    obtain ⟨hcount, rfl⟩ := hkeep
    obtain rfl : attempts = 0 := le_antisymm hcount hattempts
    cases newHash <;> rfl

section Hashes
variable {setup : Setup} {stored password passwordHash : String} {f : Failure}

/-- Whether and by what a hash that was made is replaced can be told, or the hasher fails. -/
theorem exists_replaces (hmade : Hasher.IsHash stored) :
    (∃ passwordHash, Replaces setup stored password passwordHash) ∨ ∃ f, Unreplaced setup stored password f := by
  obtain ⟨replace, hneeds⟩ := Hasher.needsRehash_of_isHash setup.hasher hmade
  cases replace with
  | false => exact .inl ⟨stored, .inr ⟨.inl hneeds, rfl⟩⟩
  | true =>
    cases hhash : setup.hasher.hash setup.sources.salts password with
    | ok passwordHash => exact .inl ⟨passwordHash, .inl ⟨hneeds, hhash⟩⟩
    | error f =>
      cases f with
      | fault f => exact .inr ⟨.fault f, hneeds, hhash, nofun⟩
      | refused e =>
        obtain ⟨n, rfl⟩ := Hasher.length_of_hash_refused hhash
        exact .inl ⟨stored, .inr ⟨.inr ⟨n, hhash⟩, rfl⟩⟩

theorem upgradedHash_of_replaces (hmade : Hasher.IsHash stored) (h : Replaces setup stored password passwordHash) :
    ∃ newHash, upgradedHash setup stored password = .ok newHash ∧ newHash.getD stored = passwordHash := by
  obtain ⟨hneeds, hhash⟩ | ⟨hkept, rfl⟩ := h
  · exact ⟨some passwordHash, upgradedHash_of_hash hneeds hhash, rfl⟩
  · refine ⟨none, ?_, rfl⟩
    obtain ⟨replace, hneeds⟩ := Hasher.needsRehash_of_isHash setup.hasher hmade
    cases replace with
    | false => exact upgradedHash_of_current hneeds password
    | true =>
      obtain hno | ⟨n, hlong⟩ := hkept
      · rw [hneeds] at hno
        cases hno
      · unfold upgradedHash
        rw [hneeds]
        simp only [bind, Except.bind, if_true, hlong]
        rfl

theorem upgradedHash_of_unreplaced (h : Unreplaced setup stored password f) :
    upgradedHash setup stored password = .error f := by
  obtain ⟨hneeds, hhash, hother⟩ := h
  unfold upgradedHash
  rw [hneeds]
  simp only [bind, Except.bind, if_true, hhash]
  cases f with
  | fault f => rfl
  | refused e => exact absurd rfl (hother e)

end Hashes

/-! ## The rows -/

section Rows
variable {setup : Setup} {w : World S} {v : World MemoryStore} {identifier password : String}
  {c : Option RequestContext} {a : Account}

section Memory
variable (h : Alongside w v) (hf : v.find? identifier = some a) (hgap : a.credentials.gaps = {})
  (hagrees : Agrees (login setup identifier password c : Op S _) (login setup identifier password c) w v)
  (hunlocked : a.credentials.isLocked v.clock = false)
include h hf hgap hagrees hunlocked

theorem rejects_login (hverify : Hasher.verify a.credentials.passwordHash password = .ok false) :
    Rejects setup c v.account? v.surroundings a ((login setup identifier password c).runOn w) := by
  have hgap' : a.credentials.gaps.loginAttempts = false := by rw [hgap]
  obtain ⟨n, hn, hsound, hcounted, hr⟩ :=
    runOn_countFailure Outcome h.sound setup (account?_of_find? h.sound hf) hgap' c
  have hmissed : Missed identifier password v a n := ⟨⟨hf, hunlocked, hverify, hgap'⟩, hn, hsound, hcounted⟩
  have hrun := (hmissed.runOn_login h.sound setup c).trans hr
  obtain rfl : n = a.credentials.loginAttempts + 1 := hn
  constructor
  · intro hbelow
    rw [if_neg (Int.not_le.2 hbelow)] at hrun
    exact hagrees.yields_accounts hrun hcounted
  · intro t hlimit ht
    have hutc : t.offset = 0 := (DateTime.offset_of_addMinutes ht).trans h.utc
    rw [if_pos hlimit, show v.clock.addMinutes? _ = some t from ht] at hrun
    exact hagrees.yields_accounts hrun (hmissed.account?_lockedOut hutc).2
  · intro hlimit ht
    rw [if_pos hlimit, show v.clock.addMinutes? _ = none from ht] at hrun
    exact hagrees.yields_accounts hrun hcounted

end Memory

section Endings
variable {x : Op S Outcome} {y : Op MemoryStore Outcome} (hagrees : Agrees x y w v) {u : World MemoryStore} (hu : u.Sound)
  {accounts : String → Option Account} (haccounts : u.account? = Function.update accounts a.id (some a))
include hagrees hu haccounts

/-- What ends with a code that is issued. -/
theorem challenges_of_runOn {number : String} (hnumber : number ≠ "")
    (hrun : y.runOn v =
      (((OtpChallenge.issue setup setup.otp a.id .loginChallenge (some number)).runOn u).1.map fun _ => .challenge a.id,
        ((OtpChallenge.issue setup setup.otp a.id .loginChallenge (some number)).runOn u).2)) :
    Challenges setup accounts u.surroundings a (x.runOn w) number := by
  have hentry : u.account? a.id = some a := by rw [haccounts, Function.update_self]
  have hissue := OtpChallenge.runOn_issue hu setup setup.otp a.id .loginChallenge (some number)
  rw [hentry, (OtpChallenge.nonempty?_eq_some.2 ⟨rfl, hnumber⟩ : OtpChallenge.nonempty? (some number) = some number)]
    at hissue
  dsimp only [Option.some_or] at hissue
  have hstored (code : String) (t : DateTime) (hdraw : drawnCode _ (setup.sources.draws u.drawn) = .ok code)
      (ht : u.clock.addMinutes? setup.otp.ttlMinutes = some t) :=
    (⟨hentry, hdraw, ht⟩ : OtpChallenge.Stores setup setup.otp a.id u a code t).account?_stored hu .loginChallenge
  simp only [haccounts, Function.update_idem] at hstored
  constructor
  · intro f hdraw
    rw [show drawnCode _ (setup.sources.draws u.drawn) = .error f from hdraw] at hissue
    rw [hissue] at hrun
    exact hagrees.yields_accounts hrun haccounts
  · intro code hdraw ht
    rw [show drawnCode _ (setup.sources.draws u.drawn) = .ok code from hdraw,
      show u.clock.addMinutes? _ = none from ht] at hissue
    rw [hissue] at hrun
    exact hagrees.yields_accounts hrun haccounts
  · intro code t outage hdraw ht hout
    rw [show drawnCode _ (setup.sources.draws u.drawn) = .ok code from hdraw,
      show u.clock.addMinutes? _ = some t from ht, show u.outage = some outage from hout] at hissue
    rw [hissue] at hrun
    exact hagrees.yields_accounts hrun (hstored code t hdraw ht)
  · intro code t hdraw ht hout
    rw [show drawnCode _ (setup.sources.draws u.drawn) = .ok code from hdraw,
      show u.clock.addMinutes? _ = some t from ht, show u.outage = none from hout] at hissue
    rw [hissue] at hrun
    exact hagrees.yields_accounts hrun (hstored code t hdraw ht)

/-- What ends with a session. -/
theorem opens_of_runOn
    (hrun : y.runOn v = (((complete setup a c).runOn u).1.map fun r => .success r.1 r.2, ((complete setup a c).runOn u).2)) :
    Opens setup c accounts u.surroundings a (x.runOn w) := by
  rw [runOn_complete hu] at hrun
  constructor
  · intro hsession
    rw [show TokenIssuer.nextSession? setup a.view u = none from hsession] at hrun
    exact hagrees.yields_accounts hrun haccounts
  · intro s hsession
    rw [show TokenIssuer.nextSession? setup a.view u = some s from hsession] at hrun
    exact hagrees.yields_accounts hrun haccounts

end Endings

theorem accepts_login (h : Alongside w v) (hf : v.find? identifier = some a) (hgap : a.credentials.gaps = {})
    (hagrees : Agrees (login setup identifier password c : Op S _) (login setup identifier password c) w v)
    (hunlocked : a.credentials.isLocked v.clock = false) (hattempts : 0 ≤ a.credentials.loginAttempts)
    (hverify : Hasher.verify a.credentials.passwordHash password = .ok true) {newHash : Option String}
    (hhash : upgradedHash setup a.credentials.passwordHash password = .ok newHash) :
    Accepts setup c v.account? v.surroundings (a.accepted v.clock (newHash.getD a.credentials.passwordHash))
      ((login setup identifier password c).runOn w) := by
  have hadmitted : Admitted setup identifier password v a newHash :=
    ⟨⟨hf, hunlocked, hverify, by rw [hgap]⟩, hhash⟩
  have hsound := hadmitted.sound h.sound
  have haccounts := hadmitted.account?_admitted h.sound
  rw [changed_acceptance_eq hattempts hgap] at haccounts
  -- what follows reads nothing of the account that was written
  have hsame : (proceed setup a c : Op MemoryStore Outcome) =
      proceed setup (a.accepted v.clock (newHash.getD a.credentials.passwordHash)) c := rfl
  have hrun := hadmitted.runOn_login h.sound c
  rw [hsame, runOn_proceed hsound] at hrun
  change (admitted a newHash v).account? = Function.update v.account?
    (a.accepted v.clock (newHash.getD a.credentials.passwordHash)).id _ at haccounts
  generalize a.accepted v.clock (newHash.getD a.credentials.passwordHash) = b at haccounts hrun ⊢
  constructor
  · intro hunverified
    rw [if_pos (by simp [hunverified])] at hrun
    exact hagrees.yields_accounts hrun haccounts
  · intro hverified hactive hnumber
    rw [if_neg (by simp [hverified]), if_pos hactive, hnumber] at hrun
    exact hagrees.yields_accounts hrun haccounts
  · intro number hverified hactive hnumber
    rw [if_neg (by simp [hverified]), if_pos hactive, hnumber] at hrun
    exact challenges_of_runOn hagrees hsound haccounts (OtpChallenge.nonempty?_eq_some.1 hnumber).2 hrun
  · intro hverified hactive
    rw [if_neg (by simp [hverified]), if_neg (by simp [hactive])] at hrun
    exact opens_of_runOn hagrees hsound haccounts hrun

end Rows

/-- **The table** of a login holds in either store, where the accounts are in order and there is room for another wrong
password. -/
theorem table_login (setup : Setup) {w : World S} {accounts : String → Option Account} (hheld : Holds w.store accounts)
    (hclock : w.clock.offset = 0) (horder : ∀ a, accounts a.id = some a → a.credentials.InOrder ∧
      FaithfulStore.Counts S (a.credentials.loginAttempts + 1)) (identifier password : String)
    (c : Option RequestContext) :
    DecisionTable setup identifier password c accounts w.surroundings ((login setup identifier password c).runOn w) := by
  obtain ⟨v, h, rfl⟩ := hheld.exists_alongside hclock
  have hfound (a : Account) : v.find? identifier = some a ↔ Found v.account? identifier a :=
    (find?_iff_of_exact h.exact).trans ⟨fun hf => ⟨hf.1, hf.2⟩, fun hf => ⟨hf.1, hf.2⟩⟩
  have hagrees := agrees_login h setup identifier password c fun a hf => by
    obtain ⟨hin, hroom⟩ := horder a ((hfound a).1 hf).account
    exact ⟨by rw [hin.complete], hroom⟩
  have hrun := runOn_login h.sound setup identifier password c
  rw [h.rest]
  constructor
  · intro hnone
    have hf : v.find? identifier = none := Option.eq_none_iff_forall_ne_some.2 fun a ha => hnone a ((hfound a).1 ha)
    rw [hf] at hrun
    exact hagrees.yields hrun
  · intro a ha hlocked
    rw [(hfound a).2 ha] at hrun
    dsimp only at hrun
    rw [if_pos (show a.credentials.isLocked v.clock = true from hlocked)] at hrun
    exact hagrees.yields hrun
  · intro a ha hunlocked hverify
    exact rejects_login h ((hfound a).2 ha) (horder a ha.account).1.complete hagrees hunlocked hverify
  · intro a passwordHash ha hunlocked hverify hreplaces
    obtain ⟨hin, -⟩ := horder a ha.account
    obtain ⟨newHash, hhash, rfl⟩ := upgradedHash_of_replaces hin.made hreplaces
    exact accepts_login h ((hfound a).2 ha) hin.complete hagrees hunlocked hin.attempts hverify hhash
  · intro a f ha hunlocked hverify hunreplaced
    obtain ⟨hin, -⟩ := horder a ha.account
    have hopen : a.credentials.isLocked v.clock = false := hunlocked
    rw [(hfound a).2 ha] at hrun
    dsimp only at hrun
    rw [if_neg (by simp [hopen]), hverify] at hrun
    dsimp only at hrun
    rw [if_neg (by simp [hin.complete]), upgradedHash_of_unreplaced hunreplaced] at hrun
    exact hagrees.yields hrun

end Login

open Login

variable {S : Type} [AccountStore S] [FaithfulStore S]

/-- A login does what its decision table says, with no effects but those of its row, in either store. At most one account
has its address; a password that is compared is right or wrong, and a right one leads to a hash, or the settings of the
hasher allow none. -/
theorem login_is_its_table (setup : Setup) {w : World S} {accounts : String → Option Account}
    (hheld : Holds w.store accounts) (hclock : w.clock.offset = 0)
    (horder : ∀ a, accounts a.id = some a → a.credentials.InOrder ∧
      FaithfulStore.Counts S (a.credentials.loginAttempts + 1)) (identifier password : String)
    (c : Option RequestContext) :
    DecisionTable setup identifier password c accounts w.surroundings ((login setup identifier password c).runOn w) ∧
      (∀ a b, Found accounts identifier a → Found accounts identifier b → a = b) ∧
      ∀ a, Found accounts identifier a → (∃ right, Hasher.verify a.credentials.passwordHash password = .ok right) ∧
        ((∃ passwordHash, Replaces setup a.credentials.passwordHash password passwordHash) ∨
          ∃ f, Unreplaced setup a.credentials.passwordHash password f) := by
  refine ⟨table_login setup hheld hclock horder identifier password c, fun a b ha hb => ?_, fun a ha => ?_⟩
  · have hid := hheld.id_unique ha.account hb.account (ha.email.trans hb.email.symm)
    exact Option.some.inj (ha.account.symm.trans (hid ▸ hb.account))
  · obtain ⟨hin, -⟩ := horder a ha.account
    exact ⟨Hasher.exists_verify hin.made password, exists_replaces hin.made⟩

/-! ## The sample -/

theorem Account.inOrder_sample : Account.sample.credentials.InOrder := ⟨Account.isHash_sample, by decide, rfl⟩

/-- A wrong password for the sample is counted, and nothing else happens. -/
theorem login_is_its_table_wrong :
    Yields ((login Setup.sample " USER@example.org" Account.overlongPassword none).runOn World.sample)
      (.error (.refused .invalidCredentials)) (Function.update World.sample.account? "1" (some (Account.sample.counted 1)))
      (World.sample.surroundings.logged Setup.sample .loginFailed (some "1") none (some .invalidCredentials)
        [("login_attempts", .int 1)]) := by
  have horder : ∀ a, World.sample.account? a.id = some a → a.credentials.InOrder ∧
      FaithfulStore.Counts MemoryStore (a.credentials.loginAttempts + 1) := by
    intro a ha
    obtain ⟨-, rfl⟩ := World.account?_sample ha
    exact ⟨Account.inOrder_sample, trivial⟩
  obtain ⟨htable, -, -⟩ := login_is_its_table Setup.sample World.holds_sample rfl horder
    " USER@example.org" Account.overlongPassword none
  have hrejects := htable.rejected .sample ⟨World.account?_sample_self, by decide +kernel⟩ (by decide)
    Account.verify_overlongPassword
  exact hrejects.counted (by decide)

/-- The first wrong password should lock the account, but no calendar shows the end of the lock: the login fails with
another error, and the account is not locked. -/
theorem lock_without_end :
    Setup.strict.policy.maxAttempts ≤ Account.sample.credentials.loginAttempts + 1 ∧
      Hasher.verify Account.sample.credentials.passwordHash Account.overlongPassword = .ok false ∧
      Yields ((login Setup.strict "user@example.org" Account.overlongPassword none).runOn World.late)
        (.error (.fault .timeRange)) (Function.update World.late.account? "1" (some (Account.sample.counted 1)))
        World.late.surroundings := by
  have horder : ∀ a, World.late.account? a.id = some a → a.credentials.InOrder ∧
      FaithfulStore.Counts MemoryStore (a.credentials.loginAttempts + 1) := by
    intro a ha
    obtain ⟨-, rfl⟩ := World.account?_sample ha
    exact ⟨Account.inOrder_sample, trivial⟩
  have htable := table_login Setup.strict (w := World.late) World.holds_sample rfl horder
    "user@example.org" Account.overlongPassword none
  have hrejects := htable.rejected .sample ⟨World.account?_sample_self, by decide +kernel⟩ (by decide)
    Account.verify_overlongPassword
  exact ⟨by decide, Account.verify_overlongPassword, hrejects.endless (by decide) (by decide +kernel)⟩

end AccountSecurity
