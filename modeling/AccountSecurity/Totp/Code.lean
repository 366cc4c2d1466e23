import AccountSecurity.Crypto.Hmac
import AccountSecurity.Error.Failure
import AccountSecurity.Number.Double
import AccountSecurity.Settings
import AccountSecurity.Text.Normal
import AccountSecurity.Text.Percent
import AccountSecurity.Time.DateTime

/-!
# Codes of authenticator apps

* `Totp.hotp` : the code of a key for a counter;
* `Totp.codeAt` : the code of a key for a time step;
* `Totp.stepOf` : the time step that the clock shows;
* `Totp.verify` : a submitted code is the code of a step within the accepted window;
* `Totp.secretOf`, `Totp.provisioningUri` : a new secret, and the address that an app is set up with.
-/

namespace AccountSecurity.Totp

/-! ## Codes -/

/-- The number that a keyed digest stands for: four bytes from the place that its last byte tells. -/
def truncated (digest : List UInt8) : Nat :=
  let start := (digest.getLastD 0).toNat % 16
  (Sha1.word ((digest.drop start).take 4)).toNat % Nat.pow 2 31

/-- The last `digits` digits of a number, with zeros in front. -/
def lastDigits (digits n : Nat) : String := String.ofList (Text.padded digits (n % Nat.pow 10 digits))

/-- The code of a key for a counter. -/
def hotp (key : List UInt8) (digits counter : Nat) : String :=
  lastDigits digits (truncated (Hmac.sha1 key (Sha1.bigEndian 8 counter)))

/-- No secret is shorter than this, in bytes. -/
def minSecretBytes : Nat := 14

/-- The key of a stored secret. -/
def keyOf (secret : String) : Except Failure (List UInt8) :=
  match Base32.decode (Base32.padded secret.toList) with
  | .error problem => .error (.fault (.ofBase32 problem))
  | .ok key => if key.length < minSecretBytes then .error (.value .shortSecret) else .ok key

/-- The settings allow codes to be made. -/
def checkConfig (config : TotpConfig) : Except Failure Unit :=
  if config.interval < 1 ∨ 120 < config.interval then .error (.value .totpInterval)
  else if config.digits < 6 ∨ 10 < config.digits then .error (.value .totpDigits)
  else .ok ()

/-- The beginning of the year after the last one, in seconds since the beginning of 1970. -/
def secondsEnd : Nat := (DateTime.wallEnd - DateTime.epoch.wall) / DateTime.perSecond

/-- The seconds since the beginning of 1970 that a clock in double precision shows, which rounds the last
moments of a second up. It serves no time before or after these years. -/
def clockSeconds (now : DateTime) : Except Failure Nat :=
  let elapsed := now.instant - DateTime.epoch.instant
  let seconds := (Double.nearest elapsed.toNat DateTime.perSecond).floor
  if elapsed < 0 ∨ secondsEnd ≤ seconds then .error (.value .totpTime) else .ok seconds

/-- The time step of a point in time. -/
def stepOf (config : TotpConfig) (now : DateTime) : Except Failure Nat := do
  return (← clockSeconds now) / config.interval.toNat

/-- The code of a key for a time step. -/
def codeAt (config : TotpConfig) (key : List UInt8) (step : Nat) : String :=
  hotp key config.digits.toNat step

/-! ## Checking -/

/-- Longer texts are equal to none. -/
def maxCompared : Nat := 1024

/-- The two codes have the same normal form. -/
def sameCode (submitted code : String) : Bool :=
  submitted.length ≤ maxCompared && Text.normalize submitted == Text.normalize code

/-- The submitted code is that of one of some steps in a row. -/
def anyStep (config : TotpConfig) (key : List UInt8) (submitted : String) :
    (count first : Nat) → Bool
  | 0, _ => false
  | count + 1, first =>
    sameCode submitted (codeAt config key first) || anyStep config key submitted count (first + 1)

/-- The number of steps that are accepted: the one of now, and those of the window before and behind it. -/
def windowSize (config : TotpConfig) : Nat := (2 * config.validWindow + 1).toNat

/-- The submitted code is that of a step within the window, which must not begin before the first step. -/
def verify (config : TotpConfig) (secret submitted : String) (now : DateTime) :
    Except Failure Bool := do
  checkConfig config
  let key ← keyOf secret
  let step ← stepOf config now
  if (step : Int) < config.validWindow then .error (.value .totpCounter)
  else return anyStep config key submitted (windowSize config) (step - config.validWindow).toNat

/-! ## Enrolment -/

/-- The number of characters of a new secret. -/
def secretLength : Nat := 32

/-- The secret of drawn numbers. -/
def secretOf (draws : List Nat) : String :=
  String.ofList (draws.map fun n => Base32.alphabet.getD (n % Base32.alphabet.length) 'A')

/-- The name of an account that has no address. -/
def namelessLabel : String := "Secret"

/-- A parameter of an address. -/
def parameter (name value : String) : String := name ++ "=" ++ Text.percentEncode [] value

/-- The address from which an app takes the secret and the settings. The usual number of digits and the
usual step are left out. -/
def provisioningUri (config : TotpConfig) (secret email : String) : String :=
  let label := Text.percentEncode ['/'] (if email = "" then namelessLabel else email)
  let issuer := config.issuer
  let place := if issuer = "" then label else Text.percentEncode ['/'] issuer ++ ":" ++ label
  let parameters :=
    [parameter "secret" secret] ++
      (if issuer = "" then [] else [parameter "issuer" issuer]) ++
      (if config.digits = 6 then [] else [parameter "digits" (Text.integerText config.digits)]) ++
      (if config.interval = 30 then [] else [parameter "period" (Text.integerText config.interval)])
  "otpauth://totp/" ++ place ++ "?" ++ String.intercalate "&" parameters

end AccountSecurity.Totp
