import AccountSecurity.Error.Class
import AccountSecurity.Encoding.Base32
import AccountSecurity.Time.TimestampReader

/-!
# Why an operation fails

* `SecurityError` : a refusal, with what its message names; `errorClass`, `message` and `cause?`;
* `ValueProblem` : a value that an operation cannot work with;
* `Fault` : a failure outside the classes of refusals;
* `Failure` : either of the two.
-/

namespace AccountSecurity

/-- Why a refresh token is refused. -/
inductive TokenProblem where
  | missing
  | unknown
  | expired
deriving DecidableEq, Repr

def TokenProblem.message : TokenProblem → String
  | .missing => "Refresh token is required"
  | .unknown => "Invalid refresh token"
  | .expired => "Refresh token has expired"

/-- Why a text message was not delivered. -/
inductive DeliveryProblem where
  /-- The carrier reported it in its own words. -/
  | reported (message : String)
  /-- The carrier failed with another error. -/
  | notSent (cause : String)
  /-- The provider behind the carrier refused the message. -/
  | refused (reason : String)
  /-- The provider behind the carrier failed with another error. -/
  | providerFailed (cause : String)
deriving DecidableEq, Repr

/-- The provider's own error. -/
def providerError : String := "TwilioRestException"

def DeliveryProblem.message : DeliveryProblem → String
  | .reported message => message
  | .notSent _ => "Failed to send OTP SMS"
  | .refused reason => "Twilio API error: " ++ reason
  | .providerFailed _ => "Failed to send SMS via Twilio"

/-- The error behind the failure. -/
def DeliveryProblem.cause? : DeliveryProblem → Option String
  | .reported _ => none
  | .notSent cause => some cause
  | .refused _ => some providerError
  | .providerFailed cause => some cause

/-- Where a phone number was needed and none was stored. -/
inductive PhoneGap where
  | login
  | challenge
deriving DecidableEq, Repr

def PhoneGap.message : PhoneGap → String
  | .login => "SMS 2FA is enabled but no phone number is registered"
  | .challenge => "Account has no phone number"

/-- The error behind a clash that a constraint of the table found. -/
def constraintError : String := "IntegrityError"

/-- A refusal. -/
inductive SecurityError where
  | invalidCredentials
  | accountLocked (remainingMinutes : Nat)
  | tooManyAttempts (lockMinutes : Int)
  | emailNotVerified
  | invalidToken (problem : TokenProblem)
  | otpNotPending
  | otpExpired
  | otpInvalid
  | totpNotConfigured
  | twoFactorNotEnabled
  | twoFactorNotEnabledForCodes
  | totpInvalid
  | incompleteTwoFactor
  | phoneNotVerified
  | smsNotEnabled
  | backupCodeLimit (limit : Int)
  | backupCodeInvalid
  | passwordTooLong (maxBytes : Nat)
  | accountExists (byConstraint : Bool)
  | accountNotFound (id : String)
  | invariantViolation (gap : PhoneGap)
  | smsDelivery (problem : DeliveryProblem)
deriving DecidableEq, Repr

namespace SecurityError

/-- The class of a refusal. -/
def errorClass : SecurityError → ErrorClass
  | invalidCredentials => .invalidCredentials
  | accountLocked _ => .accountLocked
  | tooManyAttempts _ => .tooManyAttempts
  | emailNotVerified => .emailNotVerified
  | invalidToken _ => .invalidToken
  | otpNotPending => .otpNotPending
  | otpExpired => .otpExpired
  | otpInvalid => .otpInvalid
  | totpNotConfigured => .totpNotConfigured
  | twoFactorNotEnabled | twoFactorNotEnabledForCodes => .twoFactorNotEnabled
  | totpInvalid => .totpInvalid
  | incompleteTwoFactor => .incompleteTwoFactor
  | phoneNotVerified => .phoneNotVerified
  | smsNotEnabled => .smsNotEnabled
  | backupCodeLimit _ => .backupCodeLimit
  | backupCodeInvalid => .backupCodeInvalid
  | passwordTooLong _ => .passwordTooLong
  | accountExists _ => .accountExists
  | accountNotFound _ => .accountNotFound
  | invariantViolation _ => .invariantViolation
  | smsDelivery _ => .smsDelivery

/-- What a refusal says. -/
def message (e : SecurityError) : String :=
  let about (s : String) := (e.errorClass.aboutMessage? s).getD ""
  match e with
  | accountLocked minutes => about (Text.integerText minutes)
  | tooManyAttempts minutes => about (Text.integerText minutes)
  | backupCodeLimit limit => about (Text.integerText limit)
  | passwordTooLong maxBytes => about (Text.integerText maxBytes)
  | accountNotFound id => about (Text.quoted id)
  | invalidToken problem => problem.message
  | twoFactorNotEnabledForCodes => "2FA is not enabled for this account"
  | invariantViolation gap => gap.message
  | smsDelivery problem => problem.message
  | _ => e.errorClass.usualMessage?.getD ""

/-- The error that a refusal was caused by. -/
def cause? : SecurityError → Option String
  | accountExists true => some constraintError
  | smsDelivery problem => problem.cause?
  | _ => none

def status (e : SecurityError) : Nat := e.errorClass.status

end SecurityError

/-- A length of time as it is shown, by its days, seconds and microseconds other than zero. -/
def lengthText (micros : Int) : String :=
  let rest := (micros % DateTime.perDay).toNat
  let parts : List (String × Int) :=
    [("days", micros / DateTime.perDay), ("seconds", rest / DateTime.perSecond),
     ("microseconds", rest % DateTime.perSecond)]
  let shown := (parts.filter (·.2 ≠ 0)).map fun (name, n) => name ++ "=" ++ Text.integerText n
  "datetime.timedelta(" ++ (if shown.isEmpty then "0" else String.intercalate ", " shown) ++ ")"

/-- What is said of a text that is no timestamp. -/
def TimestampProblem.message : TimestampProblem → String
  | .form text => "Invalid isoformat string: " ++ Text.quoted text
  | .year n => "year " ++ Text.integerText n ++ " is out of range"
  | .month => "month must be in 1..12"
  | .day => "day is out of range for month"
  | .hour => "hour must be in 0..23"
  | .minute => "minute must be in 0..59"
  | .second => "second must be in 0..59"
  | .offset micros =>
    "offset must be a timedelta strictly between -timedelta(hours=24) and timedelta(hours=24), not " ++
      lengthText micros ++ "."

/-- A value that an operation cannot work with. -/
inductive ValueProblem where
  | unknownCredentialFields (names : List String)
  | unknownAccountFields (names : List String)
  /-- A value, as it is shown, that names no purpose. -/
  | unknownPurpose (shown : String)
  /-- A value, as it is shown, that names no type of events. -/
  | unknownEventType (shown : String)
  | badRounds
  | badSalt
  | totpInterval
  | totpDigits
  | totpTime
  | totpCounter
  | shortSecret
  | secretNotAscii
  | codeLength (setting : String) (length : Int)
  | badTimestamp (problem : TimestampProblem)
  /-- More digits than a number may have as a text; their count is known when such a text was read. -/
  | tooManyDigits (count : Option Nat)
  /-- A number that is undefined or infinite, where JSON has to be written. -/
  | notFinite
  /-- Parameters of a path that bear the same names. -/
  | repeatedParameters (names : List String) (path : String)
  /-- What was to be taken out of a list is not in it. -/
  | notListed
  /-- A number is to be drawn below a bound that leaves none. -/
  | emptyRange
  /-- What stands at a position of a record given as a list is no pair; it has this many items. -/
  | noPair (position length : Nat)
deriving DecidableEq, Repr

/-- The names of fields in the order of their characters, quoted. -/
def sortedQuoted (names : List String) : String :=
  Text.quotedList (names.mergeSort fun a b => decide (a ≤ b))

/-- The number of digits of a code that requests may submit. -/
def requestCodeDigits : Nat := 6

/-- What is said of a value. -/
def ValueProblem.message : ValueProblem → String
  | .unknownCredentialFields names => "Unknown credential fields: " ++ sortedQuoted names
  | .unknownAccountFields names => "Unknown account fields: " ++ sortedQuoted names
  | .unknownPurpose shown => shown ++ " is not a valid OtpPurpose"
  | .unknownEventType shown => shown ++ " is not a valid AuthEventType"
  | .badRounds => "Invalid rounds"
  | .badSalt => "Invalid salt"
  | .totpInterval => "interval must be positive and at most 120 seconds"
  | .totpDigits => "digits must be between 6 and 10"
  | .totpTime => "for_time must be at or after the Unix epoch and before year 10000 UTC"
  | .totpCounter => "input must be positive integer"
  | .shortSecret => "Secrets must be at least 112 bits after decoding"
  | .secretNotAscii => "string argument should contain only ASCII characters"
  | .codeLength setting length =>
    setting ++ "=" ++ Text.integerText length ++ ", but request schemas only accept " ++
      Text.integerText requestCodeDigits ++ "-digit codes"
  | .badTimestamp problem => problem.message
  | .tooManyDigits count =>
    "Exceeds the limit (" ++ Text.integerText Text.maxIntegerDigits ++
      " digits) for integer string conversion" ++
      (match count with
        | some n => ": value has " ++ Text.integerText n ++ " digits"
        | none => "") ++
      "; use sys.set_int_max_str_digits() to increase the limit"
  | .notFinite => "Out of range float values are not JSON compliant"
  | .repeatedParameters names path =>
    "Duplicated param name" ++ (if 1 < names.length then "s" else "") ++ " " ++
      String.intercalate ", " (names.mergeSort fun a b => decide (a ≤ b)) ++ " at path " ++ path
  | .notListed => "list.remove(x): x not in list"
  | .emptyRange => "Upper bound must be positive."
  | .noPair position length =>
    "dictionary update sequence element #" ++ Text.integerText position ++ " has length " ++
      Text.integerText length ++ "; 2 is required"

/-- A failure that is no refusal. -/
inductive Fault where
  | value (problem : ValueProblem)
  /-- A secret that is no text in base 32. -/
  | secret (problem : Base32.Problem)
  /-- A time outside the years 1 to 9999. -/
  | timeRange
  /-- A number that does not fit where it is to be put. -/
  | numberRange
  /-- A column that must hold a value was given none. -/
  | requiredColumn
  /-- A stored hash that does not have the form of one. -/
  | malformedHash
  /-- A text with characters that its encoding lacks: a stored hash beyond ASCII, or a header. -/
  | unencodable
  /-- Costs under which no hash can be made. -/
  | badCosts
  /-- A record without a field that it must have, or an index without an entry. -/
  | missingField
  /-- A record with a field of a wrong kind. -/
  | wrongKind
  /-- A value that is no text stands where one is needed. -/
  | notText
  /-- Something was asked for that a value or the surroundings do not have. -/
  | notAvailable
  /-- An answer lacks the text of a field. -/
  | answerLacks (field : String)
  /-- A path that routes cannot be put under. -/
  | badPathPrefix
deriving DecidableEq, Repr

/-- Why an operation fails. -/
inductive Failure where
  | refused (e : SecurityError)
  | fault (f : Fault)
deriving DecidableEq, Repr

/-- The failure for a value that cannot be used. -/
def Failure.value (problem : ValueProblem) : Failure := .fault (.value problem)

/-- The failure of decoding a secret. -/
def Fault.ofBase32 : Base32.Problem → Fault
  | .notAscii => .value .secretNotAscii
  | problem => .secret problem

/-- What is said of a secret that is no text in base 32. -/
def secretMessage : Base32.Problem → String
  | .badPadding => "Incorrect padding"
  | _ => "Non-base32 digit found"

end AccountSecurity
