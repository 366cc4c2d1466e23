import AccountSecurity.Service.World
import AccountSecurity.Totp.Code

/-!
# Authenticator apps as a second factor

* `TotpFactor.generate` : stores a new secret; the factor is not on yet;
* `TotpFactor.enable`, `TotpFactor.disable` : the factor itself, by a code of the stored secret;
* `TotpFactor.validate` : a code at a login, which any code passes while the factor is off.
-/

namespace AccountSecurity.TotpFactor
open World
variable {S : Type} [AccountStore S]

/-- What the audit log is told of the factor. -/
def metadata : List (String × Json) := [("method", .string "totp")]

/-- What a user needs to set up an app. -/
structure Enrollment where
  secret : String
  provisioningUri : String
  picture : Option String
deriving DecidableEq, Repr

/-- A secret that is there and not empty. -/
def usableSecret? (c : Credentials) : Option String := c.totpSecret.filter (· != "")

/-- Stores a new secret in place of the one that is there. -/
def generate (setup : Setup) (id : String) : Op S Enrollment := do
  let account ← requireAccount id
  let secret := Totp.secretOf (← drawMany setup Totp.secretLength)
  Action.ofExcept (Totp.checkConfig setup.totp)
  let uri := Totp.provisioningUri setup.totp secret account.email
  changeCredentials id [.totpSecret (some secret)]
  return ⟨secret, uri, setup.picture.map (· uri)⟩

/-- The submitted code is right for a secret now. -/
def check (setup : Setup) (secret submitted : String) : Op S Bool := do
  Action.ofExcept (Totp.verify setup.totp secret submitted (← get).clock)

/-- Records that a submitted code was wrong. -/
def recordWrongCode (setup : Setup) (id : String) : Op S Unit :=
  record setup .mfaFailed (some id) none (some .totpInvalid) metadata

/-- Turns the factor on by a code of the stored secret. -/
def enable (setup : Setup) (id submitted : String) : Op S Bool := do
  let account ← requireAccount id
  match usableSecret? account.credentials with
  | none => Action.refuse .totpNotConfigured
  | some secret =>
    if ← check setup secret submitted then
      changeCredentials id [.totpEnabled true]
      record setup .mfaEnabled (some id) none none metadata
      return true
    else
      recordWrongCode setup id
      Action.refuse .totpInvalid

/-- Turns the factor off by a code of the stored secret, which is dropped. -/
def disable (setup : Setup) (id submitted : String) : Op S Bool := do
  let account ← requireAccount id
  if !account.credentials.totpEnabled then Action.refuse .twoFactorNotEnabled
  else match usableSecret? account.credentials with
    | none => Action.refuse .incompleteTwoFactor
    | some secret =>
      if ← check setup secret submitted then
        changeCredentials id [.totpEnabled false, .totpSecret none]
        record setup .mfaDisabled (some id) none none metadata
        return true
      else
        recordWrongCode setup id
        Action.refuse .totpInvalid

/-- Checks a code at a login. Without the factor there is nothing to check. -/
def validate (setup : Setup) (id submitted : String) : Op S Bool := do
  let account ← requireAccount id
  if !account.credentials.totpEnabled then return true
  else match usableSecret? account.credentials with
    | none => Action.refuse .incompleteTwoFactor
    | some secret =>
      let isValid ← check setup secret submitted
      if isValid then record setup .mfaVerified (some id) none none metadata
      else recordWrongCode setup id
      return isValid

end AccountSecurity.TotpFactor
