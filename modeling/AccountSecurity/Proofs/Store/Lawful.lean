import AccountSecurity.Store.Basic
import AccountSecurity.Text.Lowercase
import Mathlib.Logic.Function.Basic

/-!
# Lawful stores

What the services rely on in a store of accounts, whichever store it is.

* `Account.changed`, `Account.renumbered`, `Account.readdressed`, `Account.counted` : an account after an update;
* `Storable` : the updates that the services make;
* `LawfulStore` : a store whose operations read and write the account under an identifier, and no other. It has room for
  some counts, and keeps some backup codes as they are.
-/

namespace AccountSecurity

/-- The account after changes to its credentials. -/
def Account.changed (a : Account) (changes : List CredentialChange) : Account :=
  { a with credentials := CredentialChange.applyAll a.credentials changes }

/-- The account under another phone number. -/
def Account.renumbered (a : Account) (phoneNumber : Option String) : Account := { a with phoneNumber }

/-- The account under another address. -/
def Account.readdressed (a : Account) (email : String) : Account := { a with email }

/-- The account with another count of wrong passwords. -/
def Account.counted (a : Account) (attempts : Int) : Account :=
  { a with credentials := { a.credentials with loginAttempts := attempts } }

@[simp] theorem Account.changed_id (a : Account) (changes : List CredentialChange) :
    (a.changed changes).id = a.id := rfl

@[simp] theorem Account.renumbered_id (a : Account) (phoneNumber : Option String) :
    (a.renumbered phoneNumber).id = a.id := rfl

@[simp] theorem Account.counted_id (a : Account) (attempts : Int) : (a.counted attempts).id = a.id := rfl

/-- A change that a store keeps as it is, if it keeps such backup codes: times are in universal time, and counts are
only set back. -/
def CredentialChange.Storable (keeps : BackupCode → Prop) : CredentialChange → Prop
  | loginAttempts n => n = 0
  | lockedUntil v | otpExpiresAt v | lastLogin v => ∀ t ∈ v, t.offset = 0
  | backupCodes codes => ∀ code ∈ codes, keeps code
  | backupRecords _ | absent _ | unknown _ => False
  | _ => True

/-- An update that a store keeps as it is, if it keeps such backup codes. -/
def Storable (keeps : BackupCode → Prop) (changes : List CredentialChange) : Prop :=
  changes ≠ [] ∧ ∀ c ∈ changes, c.Storable keeps

/-- A store that reads and writes the account under an identifier. A count may stop being exact where the
store has no room for it. -/
class LawfulStore (S : Type) [AccountStore S] where
  /-- The state is one that the store's operations lead to. -/
  Valid : S → Prop
  /-- The account under an identifier. -/
  lookup : S → String → Option Account
  /-- The store has room for a count of wrong passwords. -/
  Counts : Int → Prop
  /-- The count that the store keeps for a count. -/
  countKept : Int → Int
  countKept_of_counts {n : Int} : Counts n → countKept n = n
  /-- The store gives a backup code back as it was written. -/
  Keeps : BackupCode → Prop
  keeps_ofText (code : String) {t : DateTime} : t.offset = 0 → Keeps (.ofText code t)
  keeps_spentAt {code : BackupCode} {t : DateTime} : Keeps code → t.offset = 0 → Keeps (code.spentAt t)
  valid_empty : Valid AccountStore.empty
  lookup_empty (id : String) : lookup AccountStore.empty id = none
  id_of_lookup {s : S} {id : String} {a : Account} : Valid s → lookup s id = some a → a.id = id
  keeps_of_lookup {s : S} {id : String} {a : Account} : Valid s → lookup s id = some a →
    ∀ code ∈ a.credentials.backupCodes, Keeps code
  runOn_findById {s : S} (id : String) : Valid s →
    (AccountStore.findById id).runOn s = (.ok (lookup s id), s)
  runOn_findByIdentifier {s : S} (identifier : String) : Valid s →
    ∃ found : Option Account, (AccountStore.findByIdentifier identifier).runOn s = (.ok found, s) ∧
      ∀ a ∈ found, lookup s a.id = some a
  runOn_updateCredentials {s : S} {id : String} {a : Account} {changes : List CredentialChange} :
    Valid s → lookup s id = some a → Storable Keeps changes →
    ∃ t, (AccountStore.updateCredentials id changes).runOn s = (.ok (), t) ∧ Valid t ∧
      lookup t = Function.update (lookup s) id (some (a.changed changes))
  runOn_updateCredentials_missing {s : S} {id : String} {changes : List CredentialChange} :
    Valid s → lookup s id = none → Storable Keeps changes →
    (AccountStore.updateCredentials id changes).runOn s = (.error (.refused (.accountNotFound id)), s)
  runOn_updateProfile {s : S} {id : String} {a : Account} (phoneNumber : Option String) :
    Valid s → lookup s id = some a →
    ∃ t, (AccountStore.updateProfile id [.phoneNumber phoneNumber]).runOn s = (.ok (), t) ∧ Valid t ∧
      lookup t = Function.update (lookup s) id (some (a.renumbered phoneNumber))
  runOn_incrementAttempts {s : S} {id : String} {a : Account} :
    Valid s → lookup s id = some a →
    if a.credentials.gaps.loginAttempts then
      (AccountStore.incrementAttempts id).runOn s = (.error (.fault .wrongKind), s)
    else ∃ t, (AccountStore.incrementAttempts id).runOn s = (.ok (countKept (a.credentials.loginAttempts + 1)), t) ∧
      Valid t ∧ lookup t = Function.update (lookup s) id (some (a.counted (countKept (a.credentials.loginAttempts + 1))))
  runOn_create {s : S} {a : Account} {passwordHash : String} :
    Valid s → a.credentials = { passwordHash } →
    (∃ e, (AccountStore.create a).runOn s = (.error e, s)) ∨
    ∃ t, (AccountStore.create a).runOn s = (.ok (), t) ∧ Valid t ∧ lookup s a.id = none ∧
      lookup t = Function.update (lookup s) a.id (some { a with email := Text.fold a.email })

end AccountSecurity
