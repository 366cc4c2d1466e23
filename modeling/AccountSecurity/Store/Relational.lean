import AccountSecurity.Store.Basic
import AccountSecurity.Table
import AccountSecurity.Text.Lowercase

/-!
# The store in a table of a database

One row per account. The columns do not hold what the fields of an account hold: times lose their offset and
are read back as universal time, the purpose of a pending code is its name, and backup codes are a list of
records. The identifier and the address are unique, and most columns require a value.

* `Json.fieldsOf` : the fields of a record that is handed over as an object or as a list of pairs;
* `Row.ofAccount`, `Row.account` : the encoding of an account as a row, and back;
* `RelationalStore` : the table, with the operations of a store.
-/

namespace AccountSecurity

/-! ## Records -/

namespace Json

/-- The items of a list, the characters of a text, or the names in an object. -/
def items? : Json → Option (List Json)
  | array items => some items
  | string s => some (s.toList.map fun c => string (String.singleton c))
  | object fields => some (fields.map fun (name, _) => string name)
  | _ => none

/-- The field that an item of a list of pairs stands for. No field has a name that is no text, and a list or an object
cannot be a name at all. -/
def pairField (position : Nat) (item : Json) : Except Fault (Option (String × Json)) :=
  match item.items? with
  | none => .error .wrongKind
  | some [string name, value] => .ok (some (name, value))
  | some [array _, _] | some [object _, _] => .error .wrongKind
  | some [_, _] => .ok none
  | some items => .error (.value (.noPair position items.length))

/-- The fields of a record: those of an object, or the pairs of a list, of which a later one replaces an earlier one. -/
def fieldsOf : Json → Except Fault (List (String × Json))
  | object fields => .ok fields
  | value =>
    match value.items? with
    | none => .error .wrongKind
    | some items => do
      let fields ← items.zipIdx.mapM fun (item, position) => pairField position item
      return (fields.reduceOption.foldl (fun t (name, value) => t.put name value) Table.empty).entries

end Json

/-! ## Rows -/

/-- An account as a row of the table. -/
structure Row where
  id : String
  email : String
  displayName : String
  phoneNumber : Option String
  orgUnitId : Option String
  passwordHash : String
  loginAttempts : Int
  lockedUntil : Option WallTime
  emailVerified : Bool
  phoneVerified : Bool
  smsEnabled : Bool
  otpCode : Option String
  otpExpiresAt : Option WallTime
  otpPurpose : Option String
  totpEnabled : Bool
  totpSecret : Option String
  backupCodes : List Json
  lastLogin : Option WallTime

namespace Row

/-- The row of an account with some name; the address is folded, and gaps are filled. -/
def ofAccount (a : Account) (displayName : String) : Row where
  id := a.id
  email := Text.fold a.email
  displayName := displayName
  phoneNumber := a.phoneNumber
  orgUnitId := a.orgUnitId
  passwordHash := a.credentials.passwordHash
  loginAttempts := a.credentials.loginAttempts
  lockedUntil := a.credentials.lockedUntil.map .of
  emailVerified := a.credentials.emailVerified
  phoneVerified := a.credentials.phoneVerified
  smsEnabled := a.credentials.smsEnabled
  otpCode := a.credentials.otp.code
  otpExpiresAt := a.credentials.otp.expiresAt.map .of
  otpPurpose := a.credentials.otp.purpose.map OtpPurpose.name
  totpEnabled := a.credentials.totpEnabled
  totpSecret := a.credentials.totpSecret
  backupCodes := a.credentials.backupCodes.map BackupCode.toJson
  lastLogin := a.credentials.lastLogin.map .of

/-- The account of a row, if its backup codes can be read. -/
def account (r : Row) : Except Fault Account := do
  let backupCodes ← r.backupCodes.mapM BackupCode.ofJson
  return {
    id := r.id
    email := r.email
    displayName := some r.displayName
    phoneNumber := r.phoneNumber
    orgUnitId := r.orgUnitId
    credentials := {
      passwordHash := r.passwordHash
      loginAttempts := r.loginAttempts
      lockedUntil := r.lockedUntil.map WallTime.utc
      emailVerified := r.emailVerified
      phoneVerified := r.phoneVerified
      smsEnabled := r.smsEnabled
      otp := {
        code := r.otpCode
        expiresAt := r.otpExpiresAt.map WallTime.utc
        purpose := r.otpPurpose.bind OtpPurpose.ofName? }
      totpEnabled := r.totpEnabled
      totpSecret := r.totpSecret
      backupCodes
      lastLogin := r.lastLogin.map WallTime.utc } }

/-- The row after a change to the credentials. -/
def applyCredential (r : Row) : CredentialChange → Row
  | .passwordHash v => { r with passwordHash := v }
  | .loginAttempts v => { r with loginAttempts := v }
  | .lockedUntil v => { r with lockedUntil := v.map .of }
  | .emailVerified v => { r with emailVerified := v }
  | .phoneVerified v => { r with phoneVerified := v }
  | .smsEnabled v => { r with smsEnabled := v }
  | .otpCode v => { r with otpCode := v }
  | .otpExpiresAt v => { r with otpExpiresAt := v.map .of }
  | .otpPurpose v => { r with otpPurpose := v.map OtpPurpose.name }
  | .totpEnabled v => { r with totpEnabled := v }
  | .totpSecret v => { r with totpSecret := v }
  | .backupCodes v => { r with backupCodes := v.map BackupCode.toJson }
  | .backupRecords v => { r with backupCodes := v.filterMap fun record => record.fieldsOf.toOption.map .object }
  | .lastLogin v => { r with lastLogin := v.map .of }
  | .absent .backupCodes => { r with backupCodes := [] }
  | .absent _ | .unknown _ => r

/-- The row after a change to the account itself; an address is folded. -/
def applyProfile (r : Row) : ProfileChange → Row
  | .email v => { r with email := (v.map Text.fold).getD r.email }
  | .displayName v => { r with displayName := v.getD r.displayName }
  | .phoneNumber v => { r with phoneNumber := v }
  | .orgUnitId v => { r with orgUnitId := v }
  | .unknown _ => r

end Row

/-- The bound of the whole numbers that a column holds. -/
def columnBound : Int := Nat.pow 2 63

/-- A whole number fits into a column. -/
def fitsColumn (n : Int) : Bool := -columnBound ≤ n && n < columnBound

namespace CredentialChange

/-- The change leaves a required column without a value. A list of backup codes is never without one. -/
def isAbsent : CredentialChange → Bool
  | absent .backupCodes => false
  | absent _ => true
  | _ => false

/-- Why the change hands over a backup code that is no record. -/
def recordFault? : CredentialChange → Option Fault
  | backupRecords records => records.findSome? fun record =>
    match record.fieldsOf with
    | .ok _ => none
    | .error f => some f
  | _ => none

/-- The change hands over a backup code that is no record. -/
def hasNoRecord (c : CredentialChange) : Bool := c.recordFault?.isSome

/-- The change has a number that does not fit into its column. -/
def isTooLarge : CredentialChange → Bool
  | loginAttempts v => !fitsColumn v
  | _ => false

end CredentialChange

namespace ProfileChange

/-- The change leaves a required column without a value. -/
def isAbsent : ProfileChange → Bool
  | displayName none => true
  | _ => false

end ProfileChange

/-- The rows of the table, in the order in which they were added. -/
structure RelationalStore where
  rows : List Row

namespace RelationalStore

/-- The table without rows. -/
def empty : RelationalStore := ⟨[]⟩

/-- The row with an identifier. -/
def rowOf? (s : RelationalStore) (id : String) : Option Row := s.rows.find? (·.id == id)

/-- The account of a row that was found. -/
def read : Option Row → Action RelationalStore (Option Account)
  | some r =>
    match r.account with
    | .ok a => return some a
    | .error f => Action.fail f
  | none => return none

/-- The account whose address, in ASCII lower case, is the folded identifier. -/
def findByIdentifier (identifier : String) : Action RelationalStore (Option Account) := do
  let email := Text.fold identifier
  read ((← get).rows.find? fun r => Text.asciiLower r.email == email)

/-- The account with an identifier. -/
def findById (id : String) : Action RelationalStore (Option Account) := do
  read ((← get).rowOf? id)

/-- Adds a row, unless a constraint forbids it. A name and a hash are required; other gaps are filled. -/
def create (a : Account) : Action RelationalStore Unit := do
  if !fitsColumn a.credentials.loginAttempts then Action.fail .numberRange
  else match a.displayName, a.credentials.gaps.passwordHash with
    | some displayName, false =>
      let row := Row.ofAccount a displayName
      if (← get).rows.any fun r => r.id == row.id || r.email == row.email then
        Action.refuse (.accountExists true)
      else modify fun s => ⟨s.rows ++ [row]⟩
    | _, _ => Action.refuse (.accountExists true)

/-- Replaces the row of an account. -/
def replace (id : String) (f : Row → Row) : Action RelationalStore Unit :=
  modify fun s => ⟨s.rows.map fun r => if r.id = id then f r else r⟩

/-- Changes credentials. An update without changes does not reach the table. -/
def updateCredentials (id : String) (changes : List CredentialChange) :
    Action RelationalStore Unit := do
  let unknown := unknownCredentialFields changes
  if unknown ≠ [] then Action.fail (.value (.unknownCredentialFields unknown))
  else match changes.findSome? CredentialChange.recordFault? with
  | some f => Action.fail f
  | none =>
    if changes.isEmpty then return ()
    else if changes.any CredentialChange.isTooLarge then Action.fail .numberRange
    else if ((← get).rowOf? id).isNone then Action.refuse (.accountNotFound id)
    else if changes.any CredentialChange.isAbsent then Action.fail .requiredColumn
    else replace id fun r => changes.foldl Row.applyCredential r

/-- A row other than that of an account has the address that an update sets. -/
def emailTaken (s : RelationalStore) (id : String) (changes : List ProfileChange) : Bool :=
  (newEmail? changes).any fun email => s.rows.any fun r => r.id != id && r.email == Text.fold email

/-- Changes an account. Whatever a constraint forbids is refused as an account that exists. -/
def updateProfile (id : String) (changes : List ProfileChange) : Action RelationalStore Unit := do
  let unknown := unknownProfileFields changes
  if unknown ≠ [] then Action.fail (.value (.unknownAccountFields unknown))
  else if changes.isEmpty then return ()
  else if changes.any ProfileChange.lacksEmail then Action.fail .notText
  else
    let s ← get
    if (s.rowOf? id).isNone then Action.refuse (.accountNotFound id)
    else if changes.any ProfileChange.isAbsent || s.emailTaken id changes then
      Action.refuse (.accountExists true)
    else replace id fun r => changes.foldl Row.applyProfile r

/-- Counts one more wrong password. A count at the end of its range goes one beyond it and stays there. -/
def incrementAttempts (id : String) : Action RelationalStore Int := do
  match (← get).rowOf? id with
  | none => Action.refuse (.accountNotFound id)
  | some r =>
    let attempts := min (r.loginAttempts + 1) columnBound
    replace id fun r => { r with loginAttempts := attempts }
    return attempts

instance : AccountStore RelationalStore where
  empty := empty
  findByIdentifier := findByIdentifier
  findById := findById
  create := create
  updateCredentials := updateCredentials
  updateProfile := updateProfile
  incrementAttempts := incrementAttempts
  accounts s := s.rows.mapM Row.account

end RelationalStore

end AccountSecurity
