import AccountSecurity.Account.Credentials

/-!
# Changes to stored accounts

An update is a list of changes, each to one field. Callers from outside may name fields that do not exist
(`unknown`), leave a required field without a value (`absent`), or hand over backup codes as records.

* `CredentialChange.apply`, `ProfileChange.apply` : the record after a change;
* `unknownCredentialFields`, `unknownProfileFields` : the names in an update that no field has.
-/

namespace AccountSecurity

/-- A new value of one field of the credentials. -/
inductive CredentialChange where
  | passwordHash (value : String)
  | loginAttempts (value : Int)
  | lockedUntil (value : Option DateTime)
  | emailVerified (value : Bool)
  | phoneVerified (value : Bool)
  | smsEnabled (value : Bool)
  | otpCode (value : Option String)
  | otpExpiresAt (value : Option DateTime)
  | otpPurpose (value : Option OtpPurpose)
  | totpEnabled (value : Bool)
  | totpSecret (value : Option String)
  | backupCodes (value : List BackupCode)
  | backupRecords (records : List Json)
  | lastLogin (value : Option DateTime)
  | absent (field : RequiredField)
  | unknown (name : String)

namespace CredentialChange

/-- The credentials after a change. Records that are no backup codes are passed over. -/
def apply (c : Credentials) : CredentialChange → Credentials
  | passwordHash v => { c with passwordHash := v, gaps.passwordHash := false }
  | loginAttempts v => { c with loginAttempts := v, gaps.loginAttempts := false }
  | lockedUntil v => { c with lockedUntil := v }
  | emailVerified v => { c with emailVerified := v, gaps.emailVerified := false }
  | phoneVerified v => { c with phoneVerified := v, gaps.phoneVerified := false }
  | smsEnabled v => { c with smsEnabled := v, gaps.smsEnabled := false }
  | otpCode v => { c with otp.code := v }
  | otpExpiresAt v => { c with otp.expiresAt := v }
  | otpPurpose v => { c with otp.purpose := v }
  | totpEnabled v => { c with totpEnabled := v, gaps.totpEnabled := false }
  | totpSecret v => { c with totpSecret := v }
  | backupCodes v => { c with backupCodes := v, gaps.backupCodes := false }
  | backupRecords rs =>
    { c with backupCodes := rs.filterMap (BackupCode.ofJson · |>.toOption), gaps.backupCodes := false }
  | lastLogin v => { c with lastLogin := v }
  | absent field => c.without field
  | unknown _ => c

/-- The credentials after a list of changes. -/
def applyAll (c : Credentials) (changes : List CredentialChange) : Credentials :=
  changes.foldl apply c

/-- The changes that empty the slot for a pending SMS code. -/
def clearOtp : List CredentialChange := [otpCode none, otpExpiresAt none, otpPurpose none]

/-- The name that no field has, if the change bears one. -/
def unknownName? : CredentialChange → Option String
  | unknown name => some name
  | _ => none

end CredentialChange

/-- The names of an update that no field of the credentials has. -/
def unknownCredentialFields (changes : List CredentialChange) : List String :=
  changes.filterMap CredentialChange.unknownName?

/-- A new value of one field of the account itself. -/
inductive ProfileChange where
  | email (value : Option String)
  | displayName (value : Option String)
  | phoneNumber (value : Option String)
  | orgUnitId (value : Option String)
  | unknown (name : String)

namespace ProfileChange

/-- The account after a change. An address without a value changes nothing. -/
def apply (a : Account) : ProfileChange → Account
  | email v => { a with email := v.getD a.email }
  | displayName v => { a with displayName := v }
  | phoneNumber v => { a with phoneNumber := v }
  | orgUnitId v => { a with orgUnitId := v }
  | unknown _ => a

/-- The account after a list of changes. -/
def applyAll (a : Account) (changes : List ProfileChange) : Account := changes.foldl apply a

/-- The address that a change sets. -/
def email? : ProfileChange → Option String
  | email v => v
  | _ => none

/-- The change leaves the address without a value. -/
def lacksEmail : ProfileChange → Bool
  | email none => true
  | _ => false

/-- The name that no field has, if the change bears one. -/
def unknownName? : ProfileChange → Option String
  | unknown name => some name
  | _ => none

end ProfileChange

/-- The names of an update that no field of an account has. -/
def unknownProfileFields (changes : List ProfileChange) : List String :=
  changes.filterMap ProfileChange.unknownName?

/-- The address that an update sets. -/
def newEmail? (changes : List ProfileChange) : Option String := changes.findSome? ProfileChange.email?

end AccountSecurity
