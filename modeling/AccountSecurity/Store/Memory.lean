import AccountSecurity.Store.Basic
import AccountSecurity.Table
import AccountSecurity.Text.Lowercase

/-!
# The store in memory

Accounts under their identifiers, and an index from addresses to identifiers. Addresses are kept trimmed and
in lower case.
-/

namespace AccountSecurity

/-- The accounts under their identifiers, and the identifiers under their addresses. -/
structure MemoryStore where
  accounts : Table Account
  emailIndex : Table String

namespace MemoryStore

/-- The store without accounts. -/
def empty : MemoryStore := ⟨Table.empty, Table.empty⟩

/-- The account with an identifier, or a refusal. -/
def require (id : String) : Action MemoryStore Account := do
  match (← get).accounts.get? id with
  | some a => return a
  | none => Action.refuse (.accountNotFound id)

/-- Replaces the account under an identifier. -/
def putAccount (id : String) (a : Account) : Action MemoryStore Unit :=
  modify fun s => { s with accounts := s.accounts.put id a }

/-- Points an address at an identifier. -/
def indexEmail (email id : String) : Action MemoryStore Unit :=
  modify fun s => { s with emailIndex := s.emailIndex.put email id }

/-- Drops an address from the index, which must have it. -/
def unindexEmail (email : String) : Action MemoryStore Unit := do
  if (← get).emailIndex.contains email then modify fun s => { s with emailIndex := s.emailIndex.erase email }
  else Action.fail .missingField

/-- The account that the index knows under an address. The index must not lead to an account that is not there. -/
def findByIdentifier (identifier : String) : Action MemoryStore (Option Account) := do
  let s ← get
  match s.emailIndex.get? (Text.fold identifier) with
  | some id => some <$> Action.orFail .missingField (s.accounts.get? id)
  | none => return none

/-- The account with an identifier. -/
def findById (id : String) : Action MemoryStore (Option Account) := return (← get).accounts.get? id

/-- Adds an account under its identifier and its folded address. -/
def create (a : Account) : Action MemoryStore Unit := do
  let email := Text.fold a.email
  let s ← get
  if s.emailIndex.contains email ∨ s.accounts.contains a.id then
    Action.refuse (.accountExists false)
  else
    putAccount a.id { a with email }
    indexEmail email a.id

/-- Changes credentials; unknown fields are refused before the account is looked up. -/
def updateCredentials (id : String) (changes : List CredentialChange) : Action MemoryStore Unit := do
  let unknown := unknownCredentialFields changes
  if unknown ≠ [] then Action.fail (.value (.unknownCredentialFields unknown))
  else
    let a ← require id
    putAccount id { a with credentials := CredentialChange.applyAll a.credentials changes }

/-- Moves an account to another address, unless a different account has it. -/
def moveEmail (id : String) (a : Account) (email : String) : Action MemoryStore Unit := do
  if ((← get).emailIndex.get? email).any (· != id) then Action.refuse (.accountExists false)
  else
    unindexEmail a.email
    indexEmail email id

/-- Changes an account; a new address is folded. -/
def updateProfile (id : String) (changes : List ProfileChange) : Action MemoryStore Unit := do
  let unknown := unknownProfileFields changes
  if unknown ≠ [] then Action.fail (.value (.unknownAccountFields unknown))
  else
    let a ← require id
    if changes.any ProfileChange.lacksEmail then Action.fail .notText else
    match newEmail? changes with
    | some email =>
      let email := Text.fold email
      moveEmail id a email
      putAccount id { ProfileChange.applyAll a changes with email }
    | none => putAccount id (ProfileChange.applyAll a changes)

/-- Counts one more wrong password, which a count without a value does not allow. -/
def incrementAttempts (id : String) : Action MemoryStore Int := do
  let a ← require id
  if a.credentials.gaps.loginAttempts then Action.fail .wrongKind
  else
    let attempts := a.credentials.loginAttempts + 1
    putAccount id { a with credentials := { a.credentials with loginAttempts := attempts } }
    return attempts

instance : AccountStore MemoryStore where
  empty := empty
  findByIdentifier := findByIdentifier
  findById := findById
  create := create
  updateCredentials := updateCredentials
  updateProfile := updateProfile
  incrementAttempts := incrementAttempts
  accounts s := .ok s.accounts.values

end MemoryStore

end AccountSecurity
