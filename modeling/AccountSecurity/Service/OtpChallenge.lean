import AccountSecurity.Otp.Code
import AccountSecurity.Service.World

/-!
# SMS codes for an account

An account has one slot for a pending code. A code is stored with its expiry and its purpose, then sent;
issuing one replaces whatever was pending.

* `OtpChallenge.issue` : makes, stores and sends a code;
* `OtpChallenge.verify` : checks a submitted code, which is used up if it is right;
* `OtpChallenge.clear` : drops the pending code.
-/

namespace AccountSecurity.OtpChallenge
open World
variable {S : Type} [AccountStore S]

/-- What the audit log is told of a code. -/
def metadata (purpose : OtpPurpose) : List (String × Json) :=
  [("method", .string "sms"), ("purpose", .string purpose.name)]

/-- A phone number that is there and not empty. -/
def nonempty? : Option String → Option String
  | some s => if s = "" then none else some s
  | none => none

/-- Draws a code. -/
def drawCode (setup : Setup) (config : OtpConfig) : Op S String := do
  let n ← draw setup
  match drawnCode config.codeLength n with
  | .ok code => return code
  | .error f => Action.fail f

/-- Issues a code to a given number or else to the account's own. -/
def issue (setup : Setup) (config : OtpConfig) (id : String) (purpose : OtpPurpose)
    (phoneNumber : Option String) : Op S Unit := do
  let account ← requireAccount id
  match (nonempty? phoneNumber).or (nonempty? account.phoneNumber) with
  | none => Action.refuse (.invariantViolation .challenge)
  | some destination =>
    let code ← drawCode setup config
    let expiresAt ← minutesFromNow config.ttlMinutes
    changeCredentials id
      [.otpCode (some code), .otpExpiresAt (some expiresAt), .otpPurpose (some purpose)]
    send setup ⟨destination, otpMessage config destination code⟩
    record setup .mfaChallengeSent (some id) none none (metadata purpose)

/-- Records and reports that a submitted code was not accepted. -/
def reject {α : Type} (setup : Setup) (id : String) (purpose : OtpPurpose) (e : SecurityError) :
    Op S α := do
  record setup .mfaFailed (some id) none (some e) (metadata purpose)
  Action.refuse e

/-- The pending code of a slot, if it may be submitted for a purpose. -/
def pendingFor? (slot : OtpSlot) (purpose : OtpPurpose) : Option String :=
  if slot.purpose.any (· ≠ purpose) then none else slot.code

/-- The slot's code has run out, or has no expiry. -/
def hasExpired (slot : OtpSlot) : Op S Bool := do
  match slot.expiresAt with
  | some expiresAt => return expiresAt.before (← utcNow)
  | none => return true

/-- The changes by which a right code is used up; it may prove the phone number. -/
def acceptance (purpose : OtpPurpose) : List CredentialChange :=
  CredentialChange.clearOtp ++
    match purpose with
    | .phoneVerification => [.phoneVerified true]
    | .loginChallenge => []

/-- Checks a submitted code, and gives the account as it was before. -/
def verify (setup : Setup) (id submitted : String) (purpose : OtpPurpose) : Op S Account := do
  let account ← requireAccount id
  let slot := account.credentials.otp
  if slot.code.isNone ∧ slot.expiresAt.isSome then
    changeCredentials id [.otpExpiresAt none]
  match pendingFor? slot purpose with
  | none => reject setup id purpose .otpNotPending
  | some code =>
    if ← hasExpired slot then
      changeCredentials id CredentialChange.clearOtp
      reject setup id purpose .otpExpired
    else if code ≠ submitted then reject setup id purpose .otpInvalid
    else
      changeCredentials id (acceptance purpose)
      record setup .mfaVerified (some id) none none (metadata purpose)
      return account

/-- Drops the pending code. -/
def clear (id : String) : Op S Unit := changeCredentials id CredentialChange.clearOtp

end AccountSecurity.OtpChallenge
