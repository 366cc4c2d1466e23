import AccountSecurity.Service.World

/-!
# Recovery by backup codes

Codes are kept after use, marked with the time, until the list is full.

* `BackupVault.makeRoom` : the list with used codes dropped, oldest first, so that one more fits;
* `BackupVault.generate` : a new code at the end of the list;
* `BackupVault.verify` : spends an unused code;
* `BackupVault.remaining` : the number of unused codes.
-/

namespace AccountSecurity.BackupVault
open World
variable {S : Type} [AccountStore S]

/-- The characters of backup codes. -/
def alphabet : List Char := "ABCDEFGHIJKLMNOPQRSTUVWXYZ0123456789".toList

/-- What the audit log is told of a backup code. -/
def metadata : List (String × Json) := [("method", .string "backup_code")]

/-- The code of drawn numbers. -/
def codeOf (draws : List Nat) : String :=
  String.ofList (draws.map fun n => alphabet.getD (n % alphabet.length) 'A')

/-- Takes the first entry out that counts as equal to a given one. -/
def takeOut (e : BackupCode) : List BackupCode → Except Failure (List BackupCode)
  | [] => .error (.value .notListed)
  | x :: rest => if x.sameAs e then .ok rest else (takeOut e rest).map (x :: ·)

/-- Goes through the entries and takes the used ones out of those that are kept, until one more fits. -/
def prune (limit : Int) : (entries kept : List BackupCode) → Except Failure (List BackupCode)
  | [], kept => .ok kept
  | e :: rest, kept =>
    if kept.length < limit then .ok kept
    else if e.used then takeOut e kept >>= prune limit rest
    else prune limit rest kept

/-- The list with room for one more entry, unless unused entries fill it. -/
def makeRoom (limit : Int) (codes : List BackupCode) : Except Failure (List BackupCode) := do
  let kept ← prune limit codes codes
  if kept.length < limit then return kept else .error (.refused (.backupCodeLimit limit))

/-- Makes a new code and puts it at the end of the list. -/
def generate (setup : Setup) (id : String) : Op S String := do
  let account ← requireAccount id
  if !account.credentials.totpEnabled then Action.refuse .twoFactorNotEnabledForCodes
  else if account.credentials.gaps.backupCodes then Action.fail .wrongKind
  else match makeRoom setup.backup.maxStored account.credentials.backupCodes with
    | .error e => throw e
    | .ok kept =>
      let code := codeOf (← drawMany setup setup.backup.codeLength.toNat)
      changeCredentials id [.backupCodes (kept ++ [.ofText code (← utcNow)])]
      record setup .backupCodeGenerated (some id) none none metadata
      return code

/-- The position of the first unused entry with a code, if there is one. -/
def findUnused? (submitted : String) : List BackupCode → Except Fault (Option Nat)
  | [] => .ok none
  | e :: rest => do
    if e.used then return (← findUnused? submitted rest).map (· + 1)
    else if ← e.agrees submitted then return some 0
    else return (← findUnused? submitted rest).map (· + 1)

/-- Spends a submitted code. Nothing is recorded for an account without the factor or without codes. -/
def verify (setup : Setup) (id submitted : String) : Op S Bool := do
  let account ← requireAccount id
  let codes := account.credentials.backupCodes
  if !account.credentials.totpEnabled ∨ codes.isEmpty then return false
  else match findUnused? submitted codes with
    | .error f => Action.fail f
    | .ok none =>
      record setup .mfaFailed (some id) none (some .backupCodeInvalid) metadata
      return false
    | .ok (some i) =>
      let now ← utcNow
      changeCredentials id [.backupCodes (codes.modify i (·.spentAt now))]
      record setup .backupCodeUsed (some id) none none metadata
      return true

/-- The number of unused codes. -/
def remaining (id : String) : Op S Nat := do
  let account ← requireAccount id
  if account.credentials.gaps.backupCodes then Action.fail .wrongKind
  else return account.credentials.backupCodes.countP (!·.used)

end AccountSecurity.BackupVault
