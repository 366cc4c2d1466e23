import AccountSecurity.Json

/-!
# The classes of security errors

Every refusal belongs to a class. The classes form a tree: below the root stand the four categories, which
fix the status of an answer over HTTP, and below these the particular refusals.

* `ErrorClass.parent?`, `ErrorClass.lineage` : the tree, and the path from a class to the root;
* `ErrorClass.status` : the HTTP status, inherited from the category;
* `ErrorClass.announce` : message and attributes of an error that is made from given arguments.
-/

namespace AccountSecurity

inductive ErrorClass where
  | root
  | unauthorized
  | badRequest
  | notFound
  | internal
  | invalidCredentials
  | accountLocked
  | tooManyAttempts
  | emailNotVerified
  | invalidToken
  | otpNotPending
  | otpExpired
  | otpInvalid
  | totpNotConfigured
  | twoFactorNotEnabled
  | totpInvalid
  | incompleteTwoFactor
  | phoneNotVerified
  | smsNotEnabled
  | backupCodeLimit
  | backupCodeInvalid
  | passwordTooLong
  | accountExists
  | accountNotFound
  | invariantViolation
  | smsDelivery
deriving DecidableEq, Repr

namespace ErrorClass

/-- All classes. -/
def all : List ErrorClass :=
  [root, unauthorized, badRequest, notFound, internal, invalidCredentials, accountLocked,
   tooManyAttempts, emailNotVerified, invalidToken, otpNotPending, otpExpired, otpInvalid,
   totpNotConfigured, twoFactorNotEnabled, totpInvalid, incompleteTwoFactor, phoneNotVerified,
   smsNotEnabled, backupCodeLimit, backupCodeInvalid, passwordTooLong, accountExists,
   accountNotFound, invariantViolation, smsDelivery]

/-- The name of a class, which is also the error code in the audit log. -/
def name : ErrorClass → String
  | root => "MfaCoreError"
  | unauthorized => "UnauthorizedError"
  | badRequest => "BadRequestError"
  | notFound => "NotFoundError"
  | internal => "InternalError"
  | invalidCredentials => "InvalidCredentialsError"
  | accountLocked => "AccountLockedError"
  | tooManyAttempts => "TooManyAttemptsError"
  | emailNotVerified => "EmailNotVerifiedError"
  | invalidToken => "InvalidTokenError"
  | otpNotPending => "OtpNotPendingError"
  | otpExpired => "OtpExpiredError"
  | otpInvalid => "OtpInvalidError"
  | totpNotConfigured => "TotpNotConfiguredError"
  | twoFactorNotEnabled => "TwoFactorNotEnabledError"
  | totpInvalid => "TotpInvalidError"
  | incompleteTwoFactor => "IncompleteTwoFactorConfigError"
  | phoneNotVerified => "PhoneNotVerifiedError"
  | smsNotEnabled => "SmsTwoFactorNotEnabledError"
  | backupCodeLimit => "BackupCodeLimitError"
  | backupCodeInvalid => "BackupCodeInvalidError"
  | passwordTooLong => "PasswordTooLongError"
  | accountExists => "AccountAlreadyExistsError"
  | accountNotFound => "AccountNotFoundError"
  | invariantViolation => "InvariantViolationError"
  | smsDelivery => "SmsDeliveryError"

/-- The class with a name. -/
def ofName? (s : String) : Option ErrorClass := all.find? (·.name == s)

/-- The class above. -/
def parent? : ErrorClass → Option ErrorClass
  | root => none
  | unauthorized | badRequest | notFound | internal => some root
  | invalidCredentials | accountLocked | tooManyAttempts | emailNotVerified | invalidToken
  | otpNotPending | otpExpired | otpInvalid | backupCodeInvalid => some unauthorized
  | totpNotConfigured | twoFactorNotEnabled | totpInvalid | incompleteTwoFactor | phoneNotVerified
  | smsNotEnabled | backupCodeLimit | passwordTooLong | accountExists => some badRequest
  | accountNotFound => some notFound
  | invariantViolation | smsDelivery => some internal

/-- The class, its category and the root, as far as they differ. -/
def lineage (c : ErrorClass) : List ErrorClass :=
  match c.parent? with
  | none => [c]
  | some p =>
    match p.parent? with
    | none => [c, p]
    | some q => [c, p, q]

/-- The category that a class belongs to. -/
def category (c : ErrorClass) : ErrorClass :=
  match c.lineage with
  | [_, p, _] => p
  | _ => c

/-- The HTTP status of an error. -/
def status (c : ErrorClass) : Nat :=
  match c.category with
  | unauthorized => 401
  | badRequest => 400
  | notFound => 404
  | _ => 500

/-! ## Messages -/

/-- The message of a class whose errors all say the same. -/
def usualMessage? : ErrorClass → Option String
  | invalidCredentials => some "Invalid credentials"
  | emailNotVerified => some "Email not verified"
  | otpNotPending => some "No OTP pending"
  | otpExpired => some "OTP expired"
  | otpInvalid => some "Invalid OTP"
  | totpNotConfigured => some "No 2FA secret generated"
  | twoFactorNotEnabled => some "2FA is not enabled"
  | totpInvalid => some "Invalid token"
  | incompleteTwoFactor => some "Incomplete 2FA configuration"
  | phoneNotVerified => some "Phone number must be verified before enabling SMS 2FA"
  | smsNotEnabled => some "SMS 2FA is not enabled"
  | backupCodeInvalid => some "Invalid backup code"
  | accountExists => some "Email already registered"
  | _ => none

/-- The message of a class that is about a number or an identifier, which is named in it. -/
def aboutMessage? (about : String) : ErrorClass → Option String
  | accountLocked => some ("Account locked. Try again in " ++ about ++ " minutes")
  | tooManyAttempts => some ("Too many failed attempts. Account locked for " ++ about ++ " minutes")
  | backupCodeLimit => some ("Backup code limit of " ++ about ++ " unused codes reached")
  | passwordTooLong => some ("Password must not exceed " ++ about ++ " bytes")
  | accountNotFound => some ("Account with id=" ++ about ++ " not found")
  | _ => none

/-- The name of the attribute that keeps what an error is about. -/
def attribute? : ErrorClass → Option String
  | accountLocked => some "remaining_minutes"
  | tooManyAttempts => some "lock_time_minutes"
  | backupCodeLimit => some "limit"
  | passwordTooLong => some "max_bytes"
  | accountNotFound => some "account_id"
  | _ => none

/-- An error made from arguments: its message, and its attribute with the value. -/
structure Announcement where
  message : String
  about : Option (String × Json)

/-- An error of a class that is about something. An identifier is quoted, anything else is not. -/
def announceAbout (c : ErrorClass) (about : Json) : Announcement :=
  let text := if c = accountNotFound then about.shown else about.plain
  ⟨(c.aboutMessage? text).getD "", c.attribute?.map fun name => (name, about)⟩

/-- An error made from arguments, if the class takes them. -/
def announce (c : ErrorClass) (arguments : List Json) : Option Announcement :=
  match c.attribute?, arguments with
  | some _, [] => if c = passwordTooLong then some (c.announceAbout (.int 72)) else none
  | some _, [about] => some (c.announceAbout about)
  | some _, [about, message] =>
    if c = accountLocked then
      let usual := c.announceAbout about
      some (if message.isTruthy then ⟨message.plain, usual.about⟩ else usual)
    else none
  | some _, _ => none
  | none, [] => some ⟨c.usualMessage?.getD "", none⟩
  | none, [message] => some ⟨message.plain, none⟩
  | none, arguments =>
    if c.usualMessage?.isSome then none
    else some ⟨"(" ++ String.intercalate ", " (Json.shownItems arguments) ++ ")", none⟩

end ErrorClass

end AccountSecurity
