import AccountSecurity.Account.BackupCode
import AccountSecurity.Number.Double

/-!
# Accounts and their credentials

* `Credentials` : the security state of an account: password hash, lock, second factors, backup codes;
* `Gaps` : the parts of the credentials that callers from outside have left without a value;
* `OtpSlot` : the one place for a pending SMS code, shared by both purposes;
* `Account` : an account with its credentials, and `AccountView`, all of it that is ever shown;
* `Credentials.isLocked`, `Credentials.remainingLockMinutes` : the lock at a point in time.
-/

namespace AccountSecurity

/-- What a pending SMS code was issued for. -/
inductive OtpPurpose where
  | loginChallenge
  | phoneVerification
deriving DecidableEq, Repr

namespace OtpPurpose

def all : List OtpPurpose := [loginChallenge, phoneVerification]

/-- The name under which a purpose is stored. -/
def name : OtpPurpose → String
  | loginChallenge => "login_challenge"
  | phoneVerification => "phone_verification"

def ofName? (s : String) : Option OtpPurpose := all.find? (·.name == s)

end OtpPurpose

/-- A pending SMS code. The three parts are written together but can be overwritten singly. -/
structure OtpSlot where
  code : Option String := none
  expiresAt : Option DateTime := none
  purpose : Option OtpPurpose := none
deriving DecidableEq

/-- A part of the credentials that should always have a value. -/
inductive RequiredField where
  | passwordHash
  | loginAttempts
  | emailVerified
  | phoneVerified
  | smsEnabled
  | totpEnabled
  | backupCodes
deriving DecidableEq, Repr

/-- Which parts of the credentials are without a value. Each of them is kept as empty, zero or false. -/
structure Gaps where
  passwordHash : Bool := false
  loginAttempts : Bool := false
  emailVerified : Bool := false
  phoneVerified : Bool := false
  smsEnabled : Bool := false
  totpEnabled : Bool := false
  backupCodes : Bool := false
deriving DecidableEq

/-- The security state of an account. -/
structure Credentials where
  passwordHash : String := ""
  loginAttempts : Int := 0
  lockedUntil : Option DateTime := none
  emailVerified : Bool := false
  phoneVerified : Bool := false
  smsEnabled : Bool := false
  otp : OtpSlot := {}
  totpEnabled : Bool := false
  totpSecret : Option String := none
  backupCodes : List BackupCode := []
  lastLogin : Option DateTime := none
  gaps : Gaps := {}
deriving DecidableEq

/-- What is shown of an account. The name should have a value, but callers from outside can leave it out. -/
structure AccountView where
  id : String
  email : String
  displayName : Option String
  phoneNumber : Option String := none
  orgUnitId : Option String := none
deriving DecidableEq

/-- An account with its credentials. -/
structure Account extends AccountView where
  credentials : Credentials := {}
deriving DecidableEq

/-- The view of an account, without its credentials. -/
def Account.view (a : Account) : AccountView := a.toAccountView

namespace Credentials

/-- The lock has not run out. -/
def isLocked (c : Credentials) (now : DateTime) : Bool := c.lockedUntil.any now.before

/-- The credentials with a part left without a value. -/
def without (c : Credentials) : RequiredField → Credentials
  | .passwordHash => { c with passwordHash := "", gaps.passwordHash := true }
  | .loginAttempts => { c with loginAttempts := 0, gaps.loginAttempts := true }
  | .emailVerified => { c with emailVerified := false, gaps.emailVerified := true }
  | .phoneVerified => { c with phoneVerified := false, gaps.phoneVerified := true }
  | .smsEnabled => { c with smsEnabled := false, gaps.smsEnabled := true }
  | .totpEnabled => { c with totpEnabled := false, gaps.totpEnabled := true }
  | .backupCodes => { c with backupCodes := [], gaps.backupCodes := true }

/-- The minutes of a length of time, rounded up. The seconds, and then the minutes, are taken in double
precision, so that a fraction too small for it is lost. -/
def minutesRoundedUp (micros : Nat) : Nat :=
  ((Double.nearest micros DateTime.perSecond).divide 60).ceiling

/-- The minutes until the lock runs out, rounded up; zero if there is no lock. -/
def remainingLockMinutes (c : Credentials) (now : DateTime) : Nat :=
  match c.lockedUntil with
  | some t => if now.before t then minutesRoundedUp (t.instant - now.instant).toNat else 0
  | none => 0

end Credentials

end AccountSecurity
