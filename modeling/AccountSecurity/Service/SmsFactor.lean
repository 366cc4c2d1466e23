import AccountSecurity.Service.OtpChallenge

/-!
# SMS as a second factor

* `SmsFactor.initiate` : stores a phone number and sends a code to it;
* `SmsFactor.verifyPhone` : proves the number by the code;
* `SmsFactor.enable`, `SmsFactor.disable` : the factor itself, which needs a proven number.
-/

namespace AccountSecurity.SmsFactor
open World
variable {S : Type} [AccountStore S]

/-- What the audit log is told of the factor. -/
def metadata : List (String × Json) := [("method", .string "sms")]

/-- Stores a number and sends a code to it. A new number is not proven, and turns the factor off. -/
def initiate (setup : Setup) (id phoneNumber : String) : Op S Unit := do
  let account ← requireAccount id
  if account.phoneNumber ≠ some phoneNumber then
    onStore (AccountStore.updateProfile id [.phoneNumber (some phoneNumber)])
    changeCredentials id [.phoneVerified false, .smsEnabled false]
  OtpChallenge.issue setup setup.phoneOtp id .phoneVerification (some phoneNumber)

/-- Proves the number by the code that was sent to it. -/
def verifyPhone (setup : Setup) (id submitted : String) : Op S Bool := do
  let _ ← OtpChallenge.verify setup id submitted .phoneVerification
  return true

/-- Turns the factor on. -/
def enable (setup : Setup) (id : String) : Op S Bool := do
  let account ← requireAccount id
  if (OtpChallenge.nonempty? account.phoneNumber).isNone ∨ !account.credentials.phoneVerified then
    Action.refuse .phoneNotVerified
  else
    changeCredentials id [.smsEnabled true]
    record setup .mfaEnabled (some id) none none metadata
    return true

/-- Turns the factor off and drops a pending code. -/
def disable (setup : Setup) (id : String) : Op S Bool := do
  let account ← requireAccount id
  if !account.credentials.smsEnabled then Action.refuse .smsNotEnabled
  else
    changeCredentials id [.smsEnabled false]
    OtpChallenge.clear id
    record setup .mfaDisabled (some id) none none metadata
    return true

end AccountSecurity.SmsFactor
