import AccountSecurity.Action
import AccountSecurity.Store.Change

/-!
# Account stores

What the services need of a store of accounts. Look-ups give copies; an update names an account and the
changes to it.
-/

namespace AccountSecurity

/-- A store of accounts. -/
class AccountStore (S : Type) where
  /-- The store without accounts. -/
  empty : S
  /-- The account with an address, spelled in any case and with blanks around it. -/
  findByIdentifier : String → Action S (Option Account)
  /-- The account with an identifier. -/
  findById : String → Action S (Option Account)
  /-- Adds an account, whose address and identifier must be new. -/
  create : Account → Action S Unit
  /-- Changes the credentials of an account. -/
  updateCredentials : String → List CredentialChange → Action S Unit
  /-- Changes an account itself. -/
  updateProfile : String → List ProfileChange → Action S Unit
  /-- Counts one more wrong password, and gives the new count. -/
  incrementAttempts : String → Action S Int
  /-- All stored accounts, if they can be read. -/
  accounts : S → Except Fault (List Account)

end AccountSecurity
