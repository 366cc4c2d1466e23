import AccountSecurity.Service.OtpChallenge
import AccountSecurity.Service.TokenIssuer
import AccountSecurity.Text.Lowercase

/-!
# Login and registration

* `Login.login` : password login, with the lock, the check of the address and the SMS step;
* `Login.finish` : the SMS step of a login;
* `Login.refresh`, `Login.logout` : the tokens of a session;
* `Login.register` : a new account.
-/

namespace AccountSecurity.Login
open World
variable {S : Type} [AccountStore S]

/-- Where a login with the right password leads. -/
inductive Outcome where
  /-- The user is logged in. -/
  | success (tokens : TokenSet) (account : AccountView)
  /-- A code was sent and has to be submitted. -/
  | challenge (accountId : String)
deriving DecidableEq

/-- What is said when a code was sent. -/
def challengeMessage : String := "SMS OTP verification required."

/-- Records a failed login and ends with the reason. -/
def refuse {α : Type} (setup : Setup) (eventType : EventType) (principal : Option String)
    (context : Option RequestContext) (e : SecurityError) (metadata : List (String × Json)) :
    Op S α := do
  record setup eventType principal context (some e) metadata
  Action.refuse e

/-- Opens the session of a login. -/
def complete (setup : Setup) (account : Account) (context : Option RequestContext) :
    Op S (TokenSet × AccountView) := do
  let tokens ← TokenIssuer.issue setup account.view
  record setup .loginSuccess (some account.id) context none []
  return (tokens, account.view)

/-- Counts a wrong password, and locks the account at the limit. -/
def countFailure {α : Type} (setup : Setup) (account : Account) (context : Option RequestContext) :
    Op S α := do
  let attempts ← onStore (AccountStore.incrementAttempts account.id)
  let metadata := [("login_attempts", Json.int attempts)]
  if setup.policy.maxAttempts ≤ attempts then
    let lockedUntil ← minutesFromNow setup.policy.lockMinutes
    changeCredentials account.id [.lockedUntil (some lockedUntil)]
    refuse setup .userLocked (some account.id) context
      (.tooManyAttempts setup.policy.lockMinutes) metadata
  else refuse setup .loginFailed (some account.id) context .invalidCredentials metadata

/-- A new hash of an accepted password, if the stored one is to be replaced and the password can be
hashed. -/
def upgradedHash (setup : Setup) (stored password : String) : Except Failure (Option String) := do
  if ← setup.hasher.needsRehash stored then
    match setup.hasher.hash setup.sources.salts password with
    | .ok h => return some h
    | .error (.refused (.passwordTooLong _)) => return none
    | .error e => throw e
  else return none

/-- The changes that an accepted password makes: the time of the login, no failures and no lock, and a
new hash if there is one. -/
def acceptance (now : DateTime) (c : Credentials) (newHash : Option String) :
    List CredentialChange :=
  [.lastLogin (some now)] ++
    (if 0 < c.loginAttempts ∨ c.lockedUntil.isSome then [.loginAttempts 0, .lockedUntil none]
      else []) ++
    (match newHash with
      | some h => [.passwordHash h]
      | none => [])

/-- What follows an accepted password: the checks of address and second factor, then the session. -/
def proceed (setup : Setup) (account : Account) (context : Option RequestContext) :
    Op S Outcome := do
  let c := account.credentials
  if !c.emailVerified then
    refuse setup .loginFailed (some account.id) context .emailNotVerified []
  else if c.smsEnabled ∧ c.phoneVerified then
    match OtpChallenge.nonempty? account.phoneNumber with
    | none => Action.refuse (.invariantViolation .login)
    | some phoneNumber =>
      OtpChallenge.issue setup setup.otp account.id .loginChallenge (some phoneNumber)
      return .challenge account.id
  else
    let (tokens, view) ← complete setup account context
    return .success tokens view

/-- Login by address and password. -/
def login (setup : Setup) (identifier password : String) (context : Option RequestContext) :
    Op S Outcome := do
  match ← onStore (AccountStore.findByIdentifier identifier) with
  | none => refuse setup .loginFailed none context .invalidCredentials []
  | some account =>
    let c := account.credentials
    let now ← utcNow
    if c.isLocked now then
      refuse setup .loginFailed (some account.id) context
        (.accountLocked (c.remainingLockMinutes now)) []
    else if ← Action.ofExcept (Hasher.verify c.passwordHash password) then
      if c.gaps.loginAttempts then Action.fail .wrongKind
      let newHash ← Action.ofExcept (upgradedHash setup c.passwordHash password)
      changeCredentials account.id (acceptance now c newHash)
      proceed setup account context
    else countFailure setup account context

/-- The SMS step of a login. -/
def finish (setup : Setup) (id submitted : String) (context : Option RequestContext) :
    Op S (TokenSet × AccountView) := do
  let account ← OtpChallenge.verify setup id submitted .loginChallenge
  changeCredentials id [.lastLogin (some (← utcNow))]
  complete setup account context

/-- Exchanges a refresh token. -/
def refresh (setup : Setup) (refreshToken : String) (context : Option RequestContext) :
    Op S TokenSet := do
  let tokens ← TokenIssuer.refresh setup refreshToken
  record setup .tokenRefreshed none context none []
  return tokens

/-- Closes the session of a refresh token. -/
def logout (setup : Setup) (refreshToken : String) (context : Option RequestContext) :
    Op S Bool := do
  let revoked ← TokenIssuer.revoke refreshToken
  record setup .logout none context none [("revoked", .bool revoked)]
  return revoked

/-- What a new account is made of. -/
structure Registration where
  email : String
  password : String
  displayName : Option String
  phoneNumber : Option String := none
  orgUnitId : Option String := none

/-- Adds an account with nothing verified and no factor, under a folded address that no account has. -/
def register (setup : Setup) (r : Registration) : Op S AccountView := do
  let email := Text.fold r.email
  match ← onStore (AccountStore.findByIdentifier email) with
  | some _ => Action.refuse (.accountExists false)
  | none =>
    let id ← nextAccountId setup
    let passwordHash ← Action.ofExcept (setup.hasher.hash setup.sources.salts r.password)
    let account : Account :=
      { id, email, displayName := r.displayName, phoneNumber := r.phoneNumber
        orgUnitId := r.orgUnitId, credentials := { passwordHash } }
    onStore (AccountStore.create account)
    record setup .userCreated (some id) none none []
    return account.view

end AccountSecurity.Login
