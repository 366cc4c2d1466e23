import AccountSecurity.Proofs.BackupRecord
import AccountSecurity.Proofs.Store.Change
import AccountSecurity.Store.Relational

/-!
# Rows and the accounts they hold

* `BackupCode.mapM_ofJson_toJson`, `OtpPurpose.ofName?_name`, `WallTime.utc_of` : what a column is given is read back;
* `CredentialChange.Kept`, `ProfileChange.Kept` : the changes that the columns keep as they are;
* `Row.account_ofAccount` : the row of an account holds that account, under its folded address;
* `Row.account_applyCredentials`, `Row.account_applyProfiles` : after an update, the row holds the updated account.
-/

namespace AccountSecurity

/-! ## Columns -/

theorem OtpPurpose.ofName?_name (p : OtpPurpose) : OtpPurpose.ofName? p.name = some p := by
  cases p <;> decide

/-- A time of a clock that shows universal time. -/
def DateTime.IsUtc (t : DateTime) : Prop := t.offset = 0

theorem WallTime.utc_of {t : DateTime} (h : t.IsUtc) : (WallTime.of t).utc = t := by
  cases t
  cases h
  rfl

theorem WallTime.map_utc_of {v : Option DateTime} (h : ∀ t ∈ v, t.IsUtc) :
    (v.map WallTime.of).map WallTime.utc = v := by
  cases v with
  | none => rfl
  | some t => exact congrArg some (WallTime.utc_of (h t rfl))

theorem OtpPurpose.bind_ofName?_name (v : Option OtpPurpose) : (v.map OtpPurpose.name).bind OtpPurpose.ofName? = v := by
  cases v with
  | none => rfl
  | some p => exact p.ofName?_name

/-! ## Backup codes -/

namespace BackupCode

theorem mapM_ofJson_toJson {codes : List BackupCode} (h : ∀ c ∈ codes, c.HasReadableOffsets) :
    (codes.map toJson).mapM ofJson = .ok codes := by
  induction codes with
  | nil => rfl
  | cons c rest ih =>
    rw [List.map_cons, List.mapM_cons, ofJson_toJson (h c (List.mem_cons_self ..)), ok_bind,
      ih fun d hd => h d (List.mem_cons_of_mem _ hd), ok_bind]
    rfl

/-- Codes that were read from JSON can be written and read again. -/
theorem hasReadableOffsets_of_mapM {records : List Json} {codes : List BackupCode}
    (h : records.mapM ofJson = .ok codes) : ∀ c ∈ codes, c.HasReadableOffsets := by
  induction records generalizing codes with
  | nil =>
    cases h
    exact fun c hc => absurd hc List.not_mem_nil
  | cons record rest ih =>
    rw [List.mapM_cons] at h
    obtain ⟨c, hc, h⟩ := bind_eq_ok_iff.1 h
    obtain ⟨others, hothers, h⟩ := bind_eq_ok_iff.1 h
    cases h
    have hread := hasReadableOffsets_of_ofRecord hc (BackupRecord.hasReadableOffsets_ofJson record)
    exact List.forall_mem_cons.2 ⟨hread, ih hothers⟩

end BackupCode

/-! ## Accounts -/

/-- Credentials that the columns keep as they are: nothing is left out, the count fits, times are in universal time, and
those of the backup codes can be written out. -/
structure Credentials.Kept (c : Credentials) : Prop where
  gaps : c.gaps = {}
  loginAttempts : fitsColumn c.loginAttempts
  lockedUntil : ∀ t ∈ c.lockedUntil, t.IsUtc
  otpExpiresAt : ∀ t ∈ c.otp.expiresAt, t.IsUtc
  lastLogin : ∀ t ∈ c.lastLogin, t.IsUtc
  backupCodes : ∀ code ∈ c.backupCodes, code.HasReadableOffsets

namespace Row

/-- The account of a row whose backup codes are read. -/
def accountWith (r : Row) (codes : List BackupCode) : Account where
  id := r.id
  email := r.email
  displayName := some r.displayName
  phoneNumber := r.phoneNumber
  orgUnitId := r.orgUnitId
  credentials := {
    passwordHash := r.passwordHash
    loginAttempts := r.loginAttempts
    lockedUntil := r.lockedUntil.map WallTime.utc
    emailVerified := r.emailVerified
    phoneVerified := r.phoneVerified
    smsEnabled := r.smsEnabled
    otp := {
      code := r.otpCode
      expiresAt := r.otpExpiresAt.map WallTime.utc
      purpose := r.otpPurpose.bind OtpPurpose.ofName? }
    totpEnabled := r.totpEnabled
    totpSecret := r.totpSecret
    backupCodes := codes
    lastLogin := r.lastLogin.map WallTime.utc }

theorem account_of_codes {r : Row} {codes : List BackupCode} (h : r.backupCodes.mapM BackupCode.ofJson = .ok codes) :
    r.account = .ok (r.accountWith codes) := by
  unfold account
  rw [h, ok_bind]
  rfl

theorem account_eq_ok {r : Row} {a : Account} (h : r.account = .ok a) :
    ∃ codes, r.backupCodes.mapM BackupCode.ofJson = .ok codes ∧ a = r.accountWith codes := by
  cases hcodes : r.backupCodes.mapM BackupCode.ofJson with
  | error e =>
    unfold account at h
    rw [hcodes] at h
    cases h
  | ok codes =>
    rw [account_of_codes hcodes] at h
    exact ⟨codes, rfl, (Except.ok.inj h).symm⟩

theorem id_of_account {r : Row} {a : Account} (h : r.account = .ok a) : a.id = r.id := by
  obtain ⟨codes, -, rfl⟩ := account_eq_ok h
  rfl

theorem email_of_account {r : Row} {a : Account} (h : r.account = .ok a) : a.email = r.email := by
  obtain ⟨codes, -, rfl⟩ := account_eq_ok h
  rfl

/-- The row of an account holds that account, under its folded address. -/
theorem account_ofAccount {a : Account} {name : String} (hname : a.displayName = some name)
    (h : a.credentials.Kept) : (ofAccount a name).account = .ok { a with email := Text.fold a.email } := by
  rw [account_of_codes (BackupCode.mapM_ofJson_toJson h.backupCodes)]
  simp only [accountWith, ofAccount, WallTime.map_utc_of h.lockedUntil, WallTime.map_utc_of h.otpExpiresAt,
    WallTime.map_utc_of h.lastLogin, OtpPurpose.bind_ofName?_name, ← hname, ← h.gaps]

end Row

/-! ## Changes to the credentials -/

/-- A change whose value the columns keep as it is. -/
def CredentialChange.Kept : CredentialChange → Prop
  | loginAttempts v => fitsColumn v
  | lockedUntil v | otpExpiresAt v | lastLogin v => ∀ t ∈ v, t.IsUtc
  | backupCodes v => ∀ c ∈ v, c.HasReadableOffsets
  | backupRecords _ | absent _ => False
  | _ => True

/-- No constraint of the table stands against a kept change. -/
theorem CredentialChange.Kept.allowed {c : CredentialChange} (h : c.Kept) :
    c.hasNoRecord = false ∧ c.isTooLarge = false ∧ c.isAbsent = false := by
  cases c with
  | loginAttempts v =>
    have hfits : fitsColumn v = true := h
    exact ⟨rfl, by rw [isTooLarge, hfits]; rfl, rfl⟩
  | backupRecords _ => exact h.elim
  | absent _ => exact h.elim
  | _ => exact ⟨rfl, rfl, rfl⟩

namespace Row

theorem account_applyCredential {r : Row} {a : Account} {c : CredentialChange} (h : r.account = .ok a) (hc : c.Kept) :
    (r.applyCredential c).account = .ok (a.changed [c]) := by
  obtain ⟨codes, hcodes, rfl⟩ := account_eq_ok h
  cases c with
  | lockedUntil v | otpExpiresAt v | lastLogin v =>
    have hv : (v.map WallTime.of).map WallTime.utc = v := WallTime.map_utc_of hc
    refine (account_of_codes (by exact hcodes)).trans ?_
    simp only [accountWith, applyCredential, hv]
    rfl
  | otpPurpose v =>
    refine (account_of_codes (by exact hcodes)).trans ?_
    simp only [accountWith, applyCredential, OtpPurpose.bind_ofName?_name]
    rfl
  | backupCodes v => exact account_of_codes (BackupCode.mapM_ofJson_toJson hc)
  | backupRecords _ => exact hc.elim
  | absent _ => exact hc.elim
  | _ => exact account_of_codes hcodes

theorem account_applyCredentials {changes : List CredentialChange} {r : Row} {a : Account} (h : r.account = .ok a)
    (hc : ∀ c ∈ changes, c.Kept) : (changes.foldl applyCredential r).account = .ok (a.changed changes) := by
  induction changes generalizing r a with
  | nil => exact h
  | cons c rest ih =>
    exact ih (account_applyCredential h (hc c (List.mem_cons_self ..))) fun d hd => hc d (List.mem_cons_of_mem _ hd)

theorem account_counted {r : Row} {a : Account} (h : r.account = .ok a) (attempts : Int) :
    ({ r with loginAttempts := attempts } : Row).account = .ok (a.counted attempts) := by
  obtain ⟨codes, hcodes, rfl⟩ := account_eq_ok h
  exact account_of_codes hcodes

/-- Nothing is left out in an account that a row holds. -/
theorem gaps_of_account {r : Row} {a : Account} (h : r.account = .ok a) : a.credentials.gaps = {} := by
  obtain ⟨codes, -, rfl⟩ := account_eq_ok h
  rfl

theorem loginAttempts_of_account {r : Row} {a : Account} (h : r.account = .ok a) :
    a.credentials.loginAttempts = r.loginAttempts := by
  obtain ⟨codes, -, rfl⟩ := account_eq_ok h
  rfl

theorem applyCredentials_id (changes : List CredentialChange) (r : Row) :
    (changes.foldl applyCredential r).id = r.id := by
  induction changes generalizing r with
  | nil => rfl
  | cons c rest ih =>
    rw [List.foldl_cons, ih]
    cases c with
    | absent field => cases field <;> rfl
    | _ => rfl

theorem applyCredentials_email (changes : List CredentialChange) (r : Row) :
    (changes.foldl applyCredential r).email = r.email := by
  induction changes generalizing r with
  | nil => rfl
  | cons c rest ih =>
    rw [List.foldl_cons, ih]
    cases c with
    | absent field => cases field <;> rfl
    | _ => rfl

end Row

/-! ## Changes to the account itself -/

/-- A change whose value the columns keep as it is: address and name have one. -/
def ProfileChange.Kept : ProfileChange → Prop
  | email v | displayName v => v.isSome
  | _ => True

/-- No constraint of the table stands against a kept change, but that addresses are unique. -/
theorem ProfileChange.Kept.allowed {c : ProfileChange} (h : c.Kept) : c.lacksEmail = false ∧ c.isAbsent = false := by
  cases c with
  | email v =>
    obtain ⟨e, rfl⟩ := Option.isSome_iff_exists.1 h
    exact ⟨rfl, rfl⟩
  | displayName v =>
    obtain ⟨name, rfl⟩ := Option.isSome_iff_exists.1 h
    exact ⟨rfl, rfl⟩
  | _ => exact ⟨rfl, rfl⟩

namespace Row

/-- After a change, the row holds the account with that change; an address is folded. -/
theorem account_applyProfile {r : Row} {a : Account} {c : ProfileChange} (h : r.account = .ok a) (hc : c.Kept) :
    (r.applyProfile c).account = .ok ((c.apply a).readdressed ((c.email?.map Text.fold).getD a.email)) := by
  obtain ⟨codes, hcodes, rfl⟩ := account_eq_ok h
  cases c with
  | email v =>
    obtain ⟨e, rfl⟩ := Option.isSome_iff_exists.1 hc
    exact account_of_codes (r := { r with email := Text.fold e }) hcodes
  | displayName v =>
    obtain ⟨name, rfl⟩ := Option.isSome_iff_exists.1 hc
    exact account_of_codes hcodes
  | _ => exact account_of_codes hcodes

theorem applyProfiles_id (changes : List ProfileChange) (r : Row) : (changes.foldl applyProfile r).id = r.id := by
  induction changes generalizing r with
  | nil => rfl
  | cons c rest ih =>
    rw [List.foldl_cons, ih]
    cases c <;> rfl

/-- After the changes of an update, each to another field, the row holds the account with them, under the new address
if there is one. -/
theorem account_applyProfiles {changes : List ProfileChange} {r : Row} {a : Account} (h : r.account = .ok a)
    (hc : ∀ c ∈ changes, c.Kept) (hfields : (changes.map ProfileChange.field).Nodup) :
    (changes.foldl applyProfile r).account =
      .ok ((ProfileChange.applyAll a changes).readdressed (((newEmail? changes).map Text.fold).getD a.email)) := by
  induction changes generalizing r a with
  | nil => exact h
  | cons c rest ih =>
    obtain ⟨hnew, hrest⟩ := List.nodup_cons.1 hfields
    have hrow := account_applyProfile h (hc c (List.mem_cons_self ..))
    have hemail : ((newEmail? rest).map Text.fold).getD ((c.email?.map Text.fold).getD a.email) =
        ((newEmail? (c :: rest)).map Text.fold).getD a.email := by
      rw [ProfileChange.newEmail?_cons]
      cases hce : c.email? with
      | none => rfl
      | some e =>
        rw [ProfileChange.field_of_email? hce] at hnew
        rw [newEmail?_eq_none hnew]
        rfl
    refine (ih hrow (fun d hd => hc d (List.mem_cons_of_mem _ hd)) hrest).trans (congrArg Except.ok ?_)
    rw [ProfileChange.applyAll_readdressed]
    show Account.readdressed _ (((newEmail? rest).map Text.fold).getD ((c.email?.map Text.fold).getD a.email)) = _
    rw [hemail]
    rfl

end Row

end AccountSecurity
