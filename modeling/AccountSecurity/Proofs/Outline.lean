import AccountSecurity.Proofs.Run
import AccountSecurity.Proofs.Store.OrderlyTable

/-!
# States without their secrets

An outline is what is left of a state without passwords, hashes, numbers, codes, secrets and tokens. The outline after a
call follows from the one before it and from what anyone may see of the call, so that these tell all that the audit log
is told.

* `DirectoryStore` : a store whose directory of addresses only new accounts change, with its instances for both stores;
* `Tally`, `Outline`, `World.outline` : a state without its secrets, together with the log;
* `Operation.masked`, `Upshot` : what anyone may see of a call and of its result;
* `Outline.next` : the outline after a call;
* `outline_run` : **every call** changes the outline so.
-/

namespace AccountSecurity
open World

/-! ## The directory of a store -/

/-- A store with a directory of addresses that only new accounts change. -/
class DirectoryStore (S : Type) [AccountStore S] extends LawfulStore S where
  /-- The identifier that is kept under an address. -/
  directory : S → String → Option String
  outcome_findByIdentifier {s : S} (identifier : String) : Valid s →
    (AccountStore.findByIdentifier identifier).outcome s = .ok ((directory s identifier).bind (lookup s))
  directory_updateCredentials (id : String) (changes : List CredentialChange) (s : S) :
    directory ((AccountStore.updateCredentials id changes).after s) = directory s
  directory_updateProfile (id : String) (phoneNumber : Option String) (s : S) :
    directory ((AccountStore.updateProfile id [.phoneNumber phoneNumber]).after s) = directory s
  directory_incrementAttempts (id : String) (s : S) :
    directory ((AccountStore.incrementAttempts id).after s) = directory s
  directory_create {s : S} {a : Account} : Valid s → (AccountStore.create a).outcome s = .ok () →
    directory ((AccountStore.create a).after s) =
      fun identifier => if Text.fold a.email = Text.fold identifier then some a.id else directory s identifier

instance : DirectoryStore MemoryStore where
  directory s identifier := s.emailIndex.get? (Text.fold identifier)
  outcome_findByIdentifier {s} identifier h := congrArg Prod.fst (h.runOn_findByIdentifier identifier)
  directory_updateCredentials id changes s := by
    unfold Action.after
    rw [show (AccountStore.updateCredentials id changes).runOn s = _ from
      MemoryStore.runOn_updateCredentials id changes s]
    split
    · rfl
    · split <;> rfl
  directory_updateProfile id phoneNumber s := by
    unfold Action.after
    rw [show (AccountStore.updateProfile id [.phoneNumber phoneNumber]).runOn s = _ from
      MemoryStore.runOn_updateProfile id _ s]
    split
    · rfl
    · split
      · rfl
      · split <;> rfl
  directory_incrementAttempts id s := by
    unfold Action.after
    rw [show (AccountStore.incrementAttempts id).runOn s = _ from MemoryStore.runOn_incrementAttempts id s]
    split
    · rfl
    · split <;> rfl
  directory_create {s a} _ h := by
    have hr : (AccountStore.create a).runOn s = _ := MemoryStore.runOn_create a s
    unfold Action.outcome at h
    unfold Action.after
    rw [hr] at h ⊢
    generalize Text.fold a.email = email at h ⊢
    split
    · next hc =>
      rw [if_pos hc] at h
      cases h
    · funext identifier
      generalize Text.fold identifier = key
      exact Table.get?_put ..

namespace RelationalStore
variable {s : RelationalStore} {f : Row → Row}

/-- The identifier in the row with an address. -/
def idUnder? (s : RelationalStore) (identifier : String) : Option String :=
  (s.rows.find? fun r => Text.asciiLower r.email == Text.fold identifier).map Row.id

/-- Where rows keep their identifiers and addresses, so does the directory. -/
theorem idUnder?_replaced (id : String) (hid : ∀ r, (f r).id = r.id) (he : ∀ r, (f r).email = r.email) :
    (s.replaced id f).idUnder? = s.idUnder? := by
  funext identifier
  unfold idUnder? replaced
  have hemail (r : Row) : (if r.id = id then f r else r).email = r.email := by
    split
    · exact he r
    · rfl
  have hids (r : Row) : (if r.id = id then f r else r).id = r.id := by
    split
    · exact hid r
    · rfl
  generalize Text.fold identifier = key
  rw [List.find?_map, Option.map_map]
  simp only [Function.comp_def, hemail, hids]

/-- A new row is found under its address, and nowhere else. -/
theorem Orderly.find?_appended (h : s.Orderly) {r : Row} (hr : Text.asciiLower r.email = r.email)
    (hnew : ∀ x ∈ s.rows, x.email ≠ r.email) (key : String) :
    ((s.appended r).rows.find? fun x => Text.asciiLower x.email == key).map Row.id =
      if r.email = key then some r.id
      else (s.rows.find? fun x => Text.asciiLower x.email == key).map Row.id := by
  unfold appended
  rw [List.find?_append, List.find?_singleton, hr]
  by_cases he : r.email = key
  · subst he
    have hnone : (s.rows.find? fun x => Text.asciiLower x.email == r.email) = none := by
      refine List.find?_eq_none.2 fun x hx => ?_
      obtain ⟨text, htext⟩ := h.folded x hx
      have hne := hnew x hx
      rw [htext] at hne
      rw [htext, Text.asciiLower_fold]
      simpa using hne
    rw [hnone, Option.none_or, if_pos (beq_self_eq_true _), if_pos rfl, Option.map_some]
  · rw [if_neg (by simpa using he), Option.or_none, if_neg he]

/-- The account under an address is that under the identifier in the row with the address. -/
theorem Orderly.outcome_findByIdentifier (h : s.Orderly) (identifier : String) :
    (AccountStore.findByIdentifier identifier).outcome s = .ok ((s.idUnder? identifier).bind s.accountOf?) := by
  have hr : (AccountStore.findByIdentifier identifier).runOn s = _ := RelationalStore.runOn_findByIdentifier identifier s
  unfold Action.outcome idUnder?
  rw [hr]
  generalize Text.fold identifier = key
  cases hfound : s.rows.find? fun r => Text.asciiLower r.email == key with
  | none => rfl
  | some r =>
    have hmem := List.mem_of_find?_eq_some hfound
    obtain ⟨a, ha⟩ := h.accounts r hmem
    have hacc : s.accountOf? r.id = some a := by
      unfold accountOf?
      rw [rowOf?_of_mem h.ids hmem, Option.bind_some, ha]
      rfl
    have hread : (read (some r)).runOn s = (.ok (some a), s) :=
      runOn_read (show (some r).map Row.account = (some a).map .ok from congrArg some ha) s
    rw [hread]
    exact congrArg Except.ok hacc.symm

/-- A new account is found under its address, and nowhere else. -/
theorem Orderly.idUnder?_create (h : s.Orderly) {a : Account} (hok : (AccountStore.create a).outcome s = .ok ()) :
    ((AccountStore.create a).after s).idUnder? =
      fun identifier => if Text.fold a.email = Text.fold identifier then some a.id else s.idUnder? identifier := by
  obtain ⟨e, hr⟩ | ⟨name, -, hr, hnew⟩ := exists_runOn_create a s
  · exact absurd ((congrArg Prod.fst hr).symm.trans hok) nofun
  · unfold Action.after
    rw [show (AccountStore.create a).runOn s = _ from hr]
    funext identifier
    have he : (Row.ofAccount a name).email = Text.fold a.email := rfl
    have hlower : Text.asciiLower (Row.ofAccount a name).email = (Row.ofAccount a name).email := by
      rw [he, Text.asciiLower_fold]
    have hfound := h.find?_appended hlower (fun r hmem => by rw [he]; exact (hnew r hmem).2) (Text.fold identifier)
    rw [he] at hfound
    exact hfound

instance : DirectoryStore RelationalStore where
  directory := idUnder?
  outcome_findByIdentifier identifier h := h.outcome_findByIdentifier identifier
  directory_updateCredentials id changes s := by
    unfold Action.after
    rw [show (AccountStore.updateCredentials id changes).runOn s = _ from runOn_updateCredentials id changes s]
    repeat' split
    all_goals first
      | rfl
      | exact idUnder?_replaced id (Row.applyCredentials_id changes) (Row.applyCredentials_email changes)
  directory_updateProfile id phoneNumber s := by
    unfold Action.after
    rw [show (AccountStore.updateProfile id [.phoneNumber phoneNumber]).runOn s = _ from
      runOn_updateProfile id _ s]
    repeat' split
    all_goals first
      | rfl
      | exact idUnder?_replaced id (fun _ => rfl) fun _ => rfl
  directory_incrementAttempts id s := by
    unfold Action.after
    rw [show (AccountStore.incrementAttempts id).runOn s = _ from runOn_incrementAttempts id s]
    split
    · rfl
    · exact idUnder?_replaced id (fun _ => rfl) fun _ => rfl
  directory_create h hok := h.idUnder?_create hok

end RelationalStore

/-! ## States without secrets -/

/-- What the log depends on in an account: how many passwords were wrong, whether the end of a lock is set, and whether
there is a second factor and are codes to recover with. -/
structure Tally where
  attempts : Int
  hasLock : Bool
  totpEnabled : Bool
  hasBackupCodes : Bool

namespace Tally

/-- The tally of a new account. -/
def fresh : Tally := ⟨0, false, false, false⟩

/-- After a wrong password, of which a store keeps some count. -/
def missed (kept : Int → Int) (t : Tally) : Tally := { t with attempts := kept (t.attempts + 1) }

/-- After a lock. -/
def locked (t : Tally) : Tally := { t with hasLock := true }

/-- After a right password. -/
def accepted (t : Tally) : Tally := if 0 < t.attempts ∨ t.hasLock then { t with attempts := 0, hasLock := false } else t

/-- With another count of wrong passwords and another lock. -/
def retried (left : Int × Bool) (t : Tally) : Tally := { t with attempts := left.1, hasLock := left.2 }

end Tally

/-- What the log depends on in an account. -/
def Account.tally (a : Account) : Tally where
  attempts := a.credentials.loginAttempts
  hasLock := a.credentials.lockedUntil.isSome
  totpEnabled := a.credentials.totpEnabled
  hasBackupCodes := !a.credentials.backupCodes.isEmpty

/-- What is left of a state without its secrets. -/
structure Outline where
  clock : DateTime
  audit : AuditLog
  idsTaken : Nat
  /-- The identifiers under the addresses. -/
  directory : String → Option String
  tallies : String → Option Tally

namespace Outline

/-- The identifier of the account that is found under an address. -/
def find? (x : Outline) (identifier : String) : Option String :=
  (x.directory identifier).filter fun id => (x.tallies id).isSome

/-- The count of wrong passwords and the lock of the account that is found under an address. -/
def tries? (x : Outline) (identifier : String) : Option (Int × Bool) :=
  ((x.find? identifier).bind x.tallies).map fun t => (t.attempts, t.hasLock)

/-- With another event in the log, if events are recorded. -/
def logged (audited : Bool) (t : EventType) (principal : Option String) (c : Option RequestContext)
    (error : Option ErrorClass) (metadata : List (String × Json)) (x : Outline) : Outline :=
  { x with
    audit :=
      if audited then x.audit.record (Event.of x.clock t principal c (error.map ErrorClass.name) (.object metadata))
      else x.audit }

/-- With another tally of an account. -/
def retallied (id : String) (f : Tally → Tally) (x : Outline) : Outline :=
  { x with tallies := Function.update x.tallies id ((x.tallies id).map f) }

/-- With a new account. -/
def enrolled (id email : String) (x : Outline) : Outline :=
  { x with
    directory := fun identifier => if Text.fold email = Text.fold identifier then some id else x.directory identifier
    tallies := Function.update x.tallies id (some .fresh) }

end Outline

section World
variable {S : Type} [AccountStore S] [DirectoryStore S] {w v : World S} {id : String} {a : Account}
open LawfulStore DirectoryStore

/-- What is left of a state without its secrets. -/
def World.outline (w : World S) : Outline where
  clock := w.clock
  audit := w.audit
  idsTaken := w.idsTaken
  directory := directory w.store
  tallies := w.part? Account.tally

theorem outline_logged (setup : Setup) (t : EventType) (p : Option String) (c : Option RequestContext)
    (e : Option SecurityError) (m : List (String × Json)) (w : World S) :
    (w.logged setup t p c e m).outline = w.outline.logged setup.audited t p c (e.map SecurityError.errorClass) m := by
  cases e <;> rfl

theorem tallies_of_account? (ha : w.account? id = some a) : w.outline.tallies id = some a.tally :=
  part?_of_account? ha

theorem tallies_of_missing (ha : w.account? id = none) : w.outline.tallies id = none := by
  show w.part? Account.tally id = none
  rw [part?, ha, Option.map_none]

theorem find?_eq (h : w.Sound) (identifier : String) :
    w.find? identifier = (directory w.store identifier).bind w.account? := by
  unfold World.find?
  rw [outcome_findByIdentifier identifier h.store]
  rfl

/-- Where the account that was found is replaced, the other one is found. -/
theorem find?_of_update (hw : w.Sound) (hv : v.Sound) {identifier : String} {a a' : Account}
    (hf : w.find? identifier = some a) (hd : directory v.store = directory w.store)
    (hl : v.account? = Function.update w.account? a.id (some a')) : v.find? identifier = some a' := by
  rw [find?_eq hw] at hf
  obtain ⟨id, hid, ha⟩ := Option.bind_eq_some_iff.1 hf
  obtain rfl := id_of_account? hw ha
  rw [find?_eq hv, hd, hid, hl, Option.bind_some, Function.update_self]

/-- The outline leads from an address to the account that is found. -/
theorem find?_outline (h : w.Sound) (identifier : String) :
    w.outline.find? identifier = (w.find? identifier).map fun a => a.id := by
  rw [find?_eq h]
  unfold Outline.find?
  show (directory w.store identifier).filter (fun id => (w.part? Account.tally id).isSome) = _
  cases directory w.store identifier with
  | none => rfl
  | some id =>
    cases ha : w.account? id with
    | none => simp [part?, ha]
    | some a => simp [part?, ha, id_of_account? h ha]

/-- Where one account is replaced, its tally is replaced. -/
theorem outline_of_update {t : S} {a' : Account} {f : Tally → Tally} (ha : w.account? id = some a)
    (hl : ({ w with store := t } : World S).account? = Function.update w.account? id (some a'))
    (hd : directory t = directory w.store) (hf : a'.tally = f a.tally) :
    ({ w with store := t } : World S).outline = w.outline.retallied id f := by
  have htally : (w.part? Account.tally id).map f = some a'.tally := by
    rw [part?_of_account? ha, Option.map_some, hf]
  unfold World.outline Outline.retallied
  dsimp only
  rw [hd, part?_of_update hl, htally]

theorem outline_changed (h : w.Sound) (ha : w.account? id = some a) {changes : List CredentialChange}
    (hs : Storable (LawfulStore.Keeps S) changes) {f : Tally → Tally} (hf : (a.changed changes).tally = f a.tally) :
    (w.changed id changes).outline = w.outline.retallied id f :=
  outline_of_update ha (account?_changed h ha hs) (directory_updateCredentials ..) hf

/-- Changes that keep the tally keep the outline. -/
theorem outline_changed_same (h : w.Sound) (ha : w.account? id = some a) {changes : List CredentialChange}
    (hs : Storable (LawfulStore.Keeps S) changes) (hf : (a.changed changes).tally = a.tally) :
    (w.changed id changes).outline = w.outline := by
  unfold World.outline
  rw [part?_of_update_same ha (account?_changed h ha hs) hf]
  exact congrArg (Outline.mk _ _ _ · _) (directory_updateCredentials ..)

theorem outline_renumbered (h : w.Sound) (ha : w.account? id = some a) (phoneNumber : Option String) :
    (w.renumbered id phoneNumber).outline = w.outline := by
  unfold World.outline
  rw [part?_of_update_same ha (account?_renumbered h ha phoneNumber) rfl]
  exact congrArg (Outline.mk _ _ _ · _) (directory_updateProfile ..)

/-- A new account shows under its address with a fresh tally. -/
theorem outline_enrolled (h : w.Sound) {a : Account} {passwordHash : String} (ha : a.credentials = { passwordHash })
    (hr : (onStore (AccountStore.create a)).runOn w = (.ok (), w.enrolled a))
    (hl : (w.enrolled a).account? = Function.update w.account? a.id (some { a with email := Text.fold a.email })) :
    (w.enrolled a).outline = w.outline.enrolled a.id a.email := by
  have htally : ({ a with email := Text.fold a.email } : Account).tally = .fresh := by
    unfold Account.tally
    dsimp only
    rw [ha]
    rfl
  have hd : directory (w.enrolled a).store = _ := directory_create h.store (congrArg Prod.fst hr)
  unfold World.outline Outline.enrolled
  rw [hd, part?_of_update hl, htally]
  rfl

end World

/-! ## What is seen of a call -/

/-- A call without the secrets that it hands over. -/
def Operation.masked : Operation → Operation
  | login identifier _ c => .login identifier "" c
  | finishLogin id _ c => .finishLogin id "" c
  | refresh _ c => .refresh "" c
  | logout _ c => .logout "" c
  | register r => .register { r with password := "", phoneNumber := r.phoneNumber.map fun _ => "" }
  | issueOtp id purpose phoneNumber => .issueOtp id purpose (phoneNumber.map fun _ => "")
  | verifyOtp id _ purpose => .verifyOtp id "" purpose
  | initiatePhone id _ => .initiatePhone id ""
  | verifyPhone id _ => .verifyPhone id ""
  | enableTotp id _ => .enableTotp id ""
  | disableTotp id _ => .disableTotp id ""
  | validateTotp id _ => .validateTotp id ""
  | verifyBackup id _ => .verifyBackup id ""
  | op => op

/-- What is seen of the result of a call: the answer, that a code was sent, or the class of a refusal. -/
inductive Upshot where
  | done
  | answered (value : Bool)
  | challenged
  | refused (c : ErrorClass)
  | broke
deriving DecidableEq

/-- What is seen of a result. -/
def Upshot.of : Except Failure Reply → Upshot
  | .ok (.flag value) => .answered value
  | .ok (.challenged _) => .challenged
  | .ok _ => .done
  | .error (.refused e) => .refused e.errorClass
  | .error (.fault _) => .broke

/-- The count and the lock of the account after a login that failed otherwise than by a refusal. -/
def Operation.left? (after : Outline) : Operation → Except Failure Reply → Option (Int × Bool)
  | login identifier _ _, .error (.fault _) => after.tries? identifier
  | _, _ => none

namespace Outline
variable (audited : Bool) (newId : Nat → String) (kept : Int → Int)

/-- After a login of an account. -/
def afterLogin (id : String) (c : Option RequestContext) (u : Upshot) (left : Option (Int × Bool)) (x : Outline) :
    Outline :=
  let count := [("login_attempts", Json.int (kept ((x.tallies id).elim 0 Tally.attempts + 1)))]
  match u with
  | .done => (x.retallied id .accepted).logged audited .loginSuccess (some id) c none []
  | .challenged => (x.retallied id .accepted).logged audited .mfaChallengeSent (some id) none none
      (OtpChallenge.metadata .loginChallenge)
  | .refused .accountLocked => x.logged audited .loginFailed (some id) c (some .accountLocked) []
  | .refused .invalidCredentials => (x.retallied id (.missed kept)).logged audited .loginFailed (some id) c
      (some .invalidCredentials) count
  | .refused .tooManyAttempts => (x.retallied id fun t => (t.missed kept).locked).logged audited .userLocked (some id) c
      (some .tooManyAttempts) count
  | .refused .emailNotVerified => (x.retallied id .accepted).logged audited .loginFailed (some id) c
      (some .emailNotVerified) []
  | .refused _ => x.retallied id .accepted
  | .broke => x.retallied id fun t => left.elim t t.retried
  | .answered _ => x

/-- After a registration. -/
def afterRegister (email : String) (u : Upshot) (x : Outline) : Outline :=
  match x.find? email, u with
  | some _, _ => x
  | none, .done => (enrolled (newId x.idsTaken) email { x with idsTaken := x.idsTaken + 1 }).logged audited .userCreated
      (some (newId x.idsTaken)) none none []
  | none, _ => { x with idsTaken := x.idsTaken + 1 }

/-- After a code was to be sent. -/
def afterIssue (id : String) (purpose : OtpPurpose) (u : Upshot) (x : Outline) : Outline :=
  match u with
  | .done => x.logged audited .mfaChallengeSent (some id) none none (OtpChallenge.metadata purpose)
  | _ => x

/-- After the check of a code that was sent. -/
def afterVerify (id : String) (purpose : OtpPurpose) (u : Upshot) (x : Outline) : Outline :=
  match u with
  | .refused .accountNotFound => x
  | .refused e => x.logged audited .mfaFailed (some id) none (some e) (OtpChallenge.metadata purpose)
  | _ => x.logged audited .mfaVerified (some id) none none (OtpChallenge.metadata purpose)

/-- After a factor was to be turned on or off, which a wrong code of an authenticator app refuses. -/
def afterToggle (t : EventType) (id : String) (metadata : List (String × Json)) (f : Tally → Tally) (u : Upshot)
    (x : Outline) : Outline :=
  match u with
  | .answered _ => (x.retallied id f).logged audited t (some id) none none metadata
  | .refused .totpInvalid => x.logged audited .mfaFailed (some id) none (some .totpInvalid) metadata
  | _ => x

/-- After a check of a code that the account may have no use for. -/
def afterCheck (t : EventType) (id : String) (e : ErrorClass) (metadata : List (String × Json)) (u : Upshot)
    (x : Outline) : Outline :=
  match u with
  | .answered true => x.logged audited t (some id) none none metadata
  | .answered false => x.logged audited .mfaFailed (some id) none (some e) metadata
  | _ => x

/-- The outline after a call. -/
def next (op : Operation) (u : Upshot) (left : Option (Int × Bool)) (x : Outline) : Outline :=
  match op with
  | .login identifier _ c =>
    match x.find? identifier with
    | none => x.logged audited .loginFailed none c (some .invalidCredentials) []
    | some id => x.afterLogin audited kept id c u left
  | .finishLogin id _ c =>
    match u with
    | .done => (x.afterVerify audited id .loginChallenge u).logged audited .loginSuccess (some id) c none []
    | _ => x.afterVerify audited id .loginChallenge u
  | .refresh _ c =>
    match u with
    | .done => x.logged audited .tokenRefreshed none c none []
    | _ => x
  | .logout _ c =>
    match u with
    | .answered revoked => x.logged audited .logout none c none [("revoked", .bool revoked)]
    | _ => x
  | .register r => x.afterRegister audited newId (Text.fold r.email) u
  | .issueOtp id purpose _ => x.afterIssue audited id purpose u
  | .initiatePhone id _ => x.afterIssue audited id .phoneVerification u
  | .verifyOtp id _ purpose => x.afterVerify audited id purpose u
  | .verifyPhone id _ => x.afterVerify audited id .phoneVerification u
  | .enableSms id => x.afterToggle audited .mfaEnabled id SmsFactor.metadata (fun t => t) u
  | .disableSms id => x.afterToggle audited .mfaDisabled id SmsFactor.metadata (fun t => t) u
  | .enableTotp id _ =>
    x.afterToggle audited .mfaEnabled id TotpFactor.metadata (fun t => { t with totpEnabled := true }) u
  | .disableTotp id _ =>
    x.afterToggle audited .mfaDisabled id TotpFactor.metadata (fun t => { t with totpEnabled := false }) u
  | .validateTotp id _ =>
    if (x.tallies id).any Tally.totpEnabled then
      x.afterCheck audited .mfaVerified id .totpInvalid TotpFactor.metadata u
    else x
  | .generateBackup id =>
    match u with
    | .done => (x.retallied id fun t => { t with hasBackupCodes := true }).logged audited .backupCodeGenerated (some id)
        none none BackupVault.metadata
    | _ => x
  | .verifyBackup id _ =>
    if (x.tallies id).any fun t => t.totpEnabled && t.hasBackupCodes then
      x.afterCheck audited .backupCodeUsed id .backupCodeInvalid BackupVault.metadata u
    else x
  | .clearOtp _ | .generateTotp _ | .remainingBackup _ => x

end Outline

/-! ## Each call -/

theorem Outline.retallied_id (id : String) (x : Outline) : x.retallied id (fun t => t) = x := by
  unfold retallied
  rw [Option.map_id', Function.update_eq_self]

/-- What a login left of the count and the lock makes up for what is not seen of it. -/
theorem Outline.retallied_of_tries {x : Outline} {identifier id : String} (hf : x.find? identifier = some id)
    {f : Tally → Tally}
    (hkept : ∀ t, (f t).totpEnabled = t.totpEnabled ∧ (f t).hasBackupCodes = t.hasBackupCodes) :
    x.retallied id f = x.retallied id fun t => ((x.retallied id f).tries? identifier).elim t t.retried := by
  obtain ⟨hd, hsome⟩ := Option.filter_eq_some_iff.1 hf
  obtain ⟨t, ht⟩ := Option.isSome_iff_exists.1 hsome
  have htally : (x.retallied id f).tallies id = some (f t) := by
    unfold retallied
    dsimp only
    rw [Function.update_self, ht, Option.map_some]
  have hfind : (x.retallied id f).find? identifier = some id :=
    Option.filter_eq_some_iff.2 ⟨hd, by rw [htally]; rfl⟩
  have hleft : (x.retallied id f).tries? identifier = some ((f t).attempts, (f t).hasLock) := by
    unfold tries?
    rw [hfind, Option.bind_some, htally, Option.map_some]
  have hretried : f t = t.retried ((f t).attempts, (f t).hasLock) := by
    obtain ⟨ht, hb⟩ := hkept t
    unfold Tally.retried
    rw [← ht, ← hb]
  rw [hleft]
  unfold retallied
  rw [ht, Option.map_some, Option.map_some, Option.elim_some, ← hretried]

theorem Outline.afterLogin_of_refused {audited : Bool} {kept : Int → Int} {id : String} {c : Option RequestContext} {e : ErrorClass}
    (he : e.category ≠ .unauthorized) (left : Option (Int × Bool)) (x : Outline) :
    x.afterLogin audited kept id c (.refused e) left = x.retallied id .accepted := by
  cases e <;> first | rfl | exact absurd rfl he

theorem Tally.accepted_kept (t : Tally) :
    t.accepted.totpEnabled = t.totpEnabled ∧ t.accepted.hasBackupCodes = t.hasBackupCodes := by
  unfold accepted
  split <;> exact ⟨rfl, rfl⟩

theorem Account.tally_acceptance (now : DateTime) (a : Account) (newHash : Option String) :
    (a.changed (Login.acceptance now a.credentials newHash)).tally = a.tally.accepted := by
  unfold Login.acceptance Tally.accepted
  have hiff : (0 < a.tally.attempts ∨ a.tally.hasLock) ↔
      (0 < a.credentials.loginAttempts ∨ a.credentials.lockedUntil.isSome) := .rfl
  by_cases hr : 0 < a.credentials.loginAttempts ∨ a.credentials.lockedUntil.isSome
  · rw [if_pos hr, if_pos (hiff.2 hr)]
    cases newHash <;> rfl
  · rw [if_neg hr, if_neg (mt hiff.1 hr)]
    cases newHash <;> rfl

section Call
variable {S : Type} [AccountStore S] [DirectoryStore S] {setup : Setup} {w : World S} (h : w.Sound)
include h
open LawfulStore DirectoryStore

variable (setup) in
/-- Issuing a code shows in the outline when the code was sent, and not otherwise. -/
theorem outline_issue (config : OtpConfig) (id : String) (purpose : OtpPurpose) (number : Option String) :
    (∃ v, (OtpChallenge.issue setup config id purpose number).runOn w = (.ok (), v) ∧
      v.outline = w.outline.logged setup.audited .mfaChallengeSent (some id) none none
        (OtpChallenge.metadata purpose)) ∨
    ∃ f v, (OtpChallenge.issue setup config id purpose number).runOn w = (.error f, v) ∧ v.outline = w.outline ∧
      ∀ e, f = .refused e → e.errorClass.category ≠ .unauthorized := by
  have hends := OtpChallenge.ends_issue h setup config id purpose number
  generalize (OtpChallenge.issue setup config id purpose number).runOn w = r at hends ⊢
  have hstored : ∀ {a code expiresAt}, OtpChallenge.Stores setup config id w a code expiresAt →
      (OtpChallenge.stored id code expiresAt purpose w).outline = w.outline := fun hs =>
    outline_changed_same (h.drew 1) hs.account (hs.storable h purpose) rfl
  cases hends with
  | missing ha => exact .inr ⟨_, _, rfl, rfl, by rintro e ⟨⟩ ⟨⟩⟩
  | numberless ha hn => exact .inr ⟨_, _, rfl, rfl, by rintro e ⟨⟩ ⟨⟩⟩
  | undrawn hd => exact .inr ⟨_, _, rfl, rfl, nofun⟩
  | endless ht => exact .inr ⟨_, _, rfl, rfl, nofun⟩
  | undelivered hs ho => exact .inr ⟨_, _, rfl, hstored hs, by rintro e ⟨⟩ ⟨⟩⟩
  | sent hs hn ho =>
    refine .inl ⟨_, rfl, ?_⟩
    rw [outline_logged]
    exact congrArg _ (hstored hs)

variable (setup) in
/-- Opening a session shows in the outline as a login, if the session can be opened. -/
theorem outline_complete (a : Account) (c : Option RequestContext) :
    (∃ tokens v, (Login.complete setup a c).runOn w = (.ok (tokens, a.view), v) ∧
      v.outline = w.outline.logged setup.audited .loginSuccess (some a.id) c none []) ∨
    ∃ f v, (Login.complete setup a c).runOn w = (.error (.fault f), v) ∧ v.outline = w.outline := by
  rw [Login.runOn_complete h]
  cases TokenIssuer.nextSession? setup a.view w with
  | none => exact .inr ⟨_, _, rfl, rfl⟩
  | some s => exact .inl ⟨_, _, rfl, outline_logged ..⟩

variable (setup) in
/-- The check of a code shows in the outline by its result. -/
theorem outline_verify (id submitted : String) (purpose : OtpPurpose) :
    (∃ a v, (OtpChallenge.verify setup id submitted purpose).runOn w = (.ok a, v) ∧
      v.outline = w.outline.logged setup.audited .mfaVerified (some id) none none (OtpChallenge.metadata purpose)) ∨
    ∃ e v, (OtpChallenge.verify setup id submitted purpose).runOn w = (.error (.refused e), v) ∧
      v.outline = w.outline.afterVerify setup.audited id purpose (.refused e.errorClass) := by
  have hends := OtpChallenge.ends_verify h setup id submitted purpose
  generalize (OtpChallenge.verify setup id submitted purpose).runOn w = r at hends ⊢
  cases hends with
  | missing ha => exact .inr ⟨_, _, rfl, rfl⟩
  | @notPending a ha hp =>
    have hswept : (OtpChallenge.swept id a.credentials.otp w).outline = w.outline := by
      unfold OtpChallenge.swept
      split
      · exact outline_changed_same h ha OtpChallenge.storable_sweep rfl
      · rfl
    refine .inr ⟨_, _, rfl, ?_⟩
    rw [outline_logged, hswept]
    rfl
  | expired ha hp he =>
    refine .inr ⟨_, _, rfl, ?_⟩
    rw [outline_logged, outline_changed_same h ha OtpChallenge.storable_clearOtp rfl]
    rfl
  | invalid ha hp he hc =>
    refine .inr ⟨_, _, rfl, ?_⟩
    rw [outline_logged]
    rfl
  | accepted ha hp he =>
    refine .inl ⟨_, _, rfl, ?_⟩
    rw [outline_logged, outline_changed_same h ha (OtpChallenge.storable_acceptance purpose) (by cases purpose <;> rfl)]
    rfl

section Login
variable {identifier password : String} {c : Option RequestContext} {a : Account} {newHash : Option String}

/-- The account that a login finds is the one whose outline changes. -/
theorem next_login (hf : w.find? identifier = some a) (u : Upshot) (left : Option (Int × Bool)) :
    w.outline.next setup.audited setup.sources.accountIds (countKept S) (.login identifier password c) u left =
      w.outline.afterLogin setup.audited (countKept S) a.id c u left := by
  unfold Outline.next
  dsimp only
  rw [find?_outline h, hf]
  rfl

/-- A login that fails otherwise than by a refusal shows what it left of the count and the lock. -/
theorem outline_of_fault (hf : w.find? identifier = some a) {v : World S} {f : Tally → Tally}
    (hv : v.outline = w.outline.retallied a.id f)
    (hkept : ∀ t, (f t).totpEnabled = t.totpEnabled ∧ (f t).hasBackupCodes = t.hasBackupCodes) (e : Fault) :
    v.outline = w.outline.next setup.audited setup.sources.accountIds (countKept S) (.login identifier password c)
      (.of (.error (.fault e))) ((Operation.login identifier password c).left? v.outline (.error (.fault e))) := by
  have hfound : w.outline.find? identifier = some a.id := by
    rw [find?_outline h, hf]
    rfl
  rw [next_login h hf, hv]
  exact Outline.retallied_of_tries hfound hkept

theorem outline_admitted (hc : Login.Admitted setup identifier password w a newHash) :
    (Login.admitted a newHash w).outline = w.outline.retallied a.id .accepted :=
  outline_changed h (hc.account? h) (Login.storable_loginAcceptance h.clock ..) (Account.tally_acceptance ..)

/-- A wrong password is counted, and the log is told of the count. -/
theorem outline_missed {n : Int} (hc : Login.Missed identifier password w a n) :
    (w.counted a.id).outline = w.outline.retallied a.id (.missed (countKept S)) ∧
      n = countKept S ((w.outline.tallies a.id).elim 0 Tally.attempts + 1) := by
  constructor
  · refine outline_of_update (hc.account? h) hc.account (directory_incrementAttempts ..) ?_
    rw [hc.count]
    rfl
  · rw [tallies_of_account? (hc.account? h)]
    exact hc.count

theorem outline_lockedOut {n : Int} (hc : Login.Missed identifier password w a n) {t : DateTime} (ht : t.offset = 0) :
    ((w.counted a.id).changed a.id [.lockedUntil (some t)]).outline =
      w.outline.retallied a.id fun t => (t.missed (countKept S)).locked := by
  refine outline_of_update (hc.account? h) (hc.account?_lockedOut ht).2 ?_ ?_
  · exact (directory_updateCredentials ..).trans (directory_incrementAttempts ..)
  · rw [hc.count]
    rfl

end Login

/-- A login shows in the outline by its result. Where it fails otherwise than by a refusal, what it leaves of the count
and the lock is seen too. -/
theorem outline_login (identifier password : String) (c : Option RequestContext) :
    ((Operation.login identifier password c).run setup w).2.outline =
      w.outline.next setup.audited setup.sources.accountIds (countKept S) (.login identifier password c)
        (.of ((Operation.login identifier password c).run setup w).1)
        ((Operation.login identifier password c).left? ((Operation.login identifier password c).run setup w).2.outline
          ((Operation.login identifier password c).run setup w).1) := by
  rw [Operation.run_login setup h]
  have hends := Login.ends_login setup h identifier password c
  generalize (Login.login setup identifier password c).runOn w = r at hends ⊢
  cases hends with
  | unknown hf =>
    rw [outline_logged]
    unfold Outline.next
    dsimp only
    rw [find?_outline h, hf]
    rfl
  | locked hf hl =>
    dsimp only
    rw [outline_logged, next_login h hf]
    rfl
  | @broken a f hf hl hx =>
    cases f with
    | refused e => exact absurd rfl (hx e)
    | fault e => exact outline_of_fault h hf (Outline.retallied_id ..).symm (fun _ => ⟨rfl, rfl⟩) e
  | rejected hc hm =>
    obtain ⟨hcounted, hn⟩ := outline_missed h hc
    dsimp only
    rw [outline_logged, next_login h hc.found, hcounted, hn]
    rfl
  | lockedOut hc hm ht =>
    have hlocked := outline_lockedOut h hc ((DateTime.offset_of_addMinutes ht).trans h.clock)
    dsimp only
    rw [outline_logged, next_login h hc.found, hlocked, (outline_missed h hc).2]
    rfl
  | endless hc hm ht => exact outline_of_fault h hc.found (outline_missed h hc).1 (fun _ => ⟨rfl, rfl⟩) _
  | unverified hc he =>
    dsimp only
    rw [outline_logged, next_login h hc.found, outline_admitted h hc]
    rfl
  | numberless hc he hs hn =>
    dsimp only
    rw [next_login h hc.found, outline_admitted h hc]
    rfl
  | @challenged a newHash n hc he hs hn =>
    obtain ⟨v, hr, hv⟩ | ⟨f, v, hr, hv, hf⟩ :=
      outline_issue setup (hc.sound h) setup.otp a.id .loginChallenge (some n)
    · rw [hr]
      dsimp only
      rw [hv, next_login h hc.found, outline_admitted h hc]
      rfl
    · rw [outline_admitted h hc] at hv
      rw [hr]
      cases f with
      | refused e =>
        dsimp only
        rw [hv, next_login h hc.found]
        exact (Outline.afterLogin_of_refused (hf e rfl) ..).symm
      | fault e => exact outline_of_fault h hc.found hv Tally.accepted_kept e
  | @opened a newHash hc he hs =>
    obtain ⟨tokens, v, hr, hv⟩ | ⟨e, v, hr, hv⟩ := outline_complete setup (hc.sound h) a c
    · rw [hr]
      dsimp only
      rw [hv, next_login h hc.found, outline_admitted h hc]
      rfl
    · rw [outline_admitted h hc] at hv
      rw [hr]
      exact outline_of_fault h hc.found hv Tally.accepted_kept e

/-- A call changes the outline by what is seen of it. -/
def Operation.Shows (setup : Setup) (op : Operation) (w : World S) : Prop :=
  ∀ left, (op.run setup w).2.outline =
    w.outline.next setup.audited setup.sources.accountIds (countKept S) op (.of (op.run setup w).1) left

theorem shows_finish (id code : String) (c : Option RequestContext) :
    (Operation.finishLogin id code c).Shows setup w := by
  intro left
  rw [Operation.run_finishLogin setup h, Login.runOn_finish h]
  obtain ⟨a, v, hr, hv⟩ | ⟨e, v, hr, hv⟩ := outline_verify setup h id code .loginChallenge
  · obtain ⟨hsound, ha, -⟩ := OtpChallenge.account?_of_verify_ok h hr
    obtain rfl : a.id = id := id_of_account? h (OtpChallenge.of_runOn_verify_ok h hr).1
    have hlast : Storable (LawfulStore.Keeps S) _ := Login.storable_lastLogin h.clock
    have hchanged : (v.changed a.id [.lastLogin (some w.clock)]).outline = v.outline :=
      outline_changed_same hsound ha hlast rfl
    rw [hr]
    obtain ⟨tokens, v', hr', hv'⟩ | ⟨f, v', hr', hv'⟩ :=
      outline_complete setup (hsound.changed ha hlast) a c
    · dsimp only
      rw [hr']
      dsimp only
      rw [hv', hchanged, hv]
      rfl
    · dsimp only
      rw [hr']
      dsimp only
      rw [hv', hchanged, hv]
      rfl
  · rw [hr]
    exact hv

theorem shows_refresh (token : String) (c : Option RequestContext) : (Operation.refresh token c).Shows setup w := by
  intro left
  rw [Operation.run_refresh setup h, Login.runOn_loginRefresh h]
  have hkept : ((TokenIssuer.refresh setup token).runOn w).2.outline = w.outline := by
    rw [TokenIssuer.runOn_refresh h]
    (repeat' split) <;> rfl
  rcases hr : (TokenIssuer.refresh setup token).runOn w with ⟨e | tokens, v⟩
  · rw [hr] at hkept
    cases e <;> exact hkept
  · rw [hr] at hkept
    dsimp only at hkept ⊢
    rw [outline_logged, hkept]
    rfl

theorem shows_register (r : Login.Registration) : (Operation.register r).Shows setup w := by
  intro left
  have hr : (Operation.register r).run setup w = _ := Action.runOn_map ..
  rw [hr, Login.runOn_register h]
  have hnext : ∀ u, w.outline.next setup.audited setup.sources.accountIds (countKept S) (.register r) u left =
      w.outline.afterRegister setup.audited setup.sources.accountIds (Text.fold r.email) u := fun _ => rfl
  have ht : (Login.tookId w).Sound := h.congr rfl rfl
  rw [hnext]
  unfold Outline.afterRegister
  rw [find?_outline h]
  cases w.find? (Text.fold r.email) with
  | some a => rfl
  | none =>
    cases setup.hasher.hash setup.sources.salts r.password with
    | error f => cases f <;> rfl
    | ok passwordHash =>
      have hnew : (Login.newAccount setup r passwordHash w).credentials = { passwordHash } := rfl
      dsimp only
      obtain ⟨e, he⟩ | ⟨hc, -, -, hl⟩ := runOn_enroll ht hnew
      · rw [he]
        cases e <;> rfl
      · rw [hc]
        dsimp only
        rw [outline_logged, outline_enrolled ht hnew hc hl]
        rfl

theorem shows_initiate (id number : String) : (Operation.initiatePhone id number).Shows setup w := by
  intro left
  rw [Operation.run_initiatePhone, SmsFactor.runOn_initiate h]
  cases ha : w.account? id with
  | none => rfl
  | some a =>
    have hmoved : (SmsFactor.moved id number a w).outline = w.outline := by
      unfold SmsFactor.moved
      split
      · rfl
      · rw [outline_changed_same (h.renumbered ha _) (SmsFactor.account?_renumbered_self h ha _)
          SmsFactor.storable_unproven rfl, outline_renumbered h ha]
    dsimp only
    obtain ⟨v, hr, hv⟩ | ⟨f, v, hr, hv, -⟩ := outline_issue setup (SmsFactor.sound_moved h ha number)
      setup.phoneOtp id .phoneVerification (some number)
    · rw [hr]
      dsimp only
      rw [hv, hmoved]
      rfl
    · rw [hr]
      dsimp only
      rw [hv, hmoved]
      cases f <;> rfl

theorem shows_enableSms (id : String) : (Operation.enableSms id).Shows setup w := by
  intro left
  have hr : (Operation.enableSms id).run setup w = _ := Action.runOn_map ..
  rw [hr, SmsFactor.runOn_enable h]
  cases ha : w.account? id with
  | none => rfl
  | some a =>
    dsimp only
    split
    · rfl
    · dsimp only
      rw [outline_logged, outline_changed h ha (SmsFactor.storable_smsEnabled true) (f := fun t => t) rfl]
      rfl

theorem shows_disableSms (id : String) : (Operation.disableSms id).Shows setup w := by
  intro left
  have hr : (Operation.disableSms id).run setup w = _ := Action.runOn_map ..
  rw [hr, SmsFactor.runOn_disable h]
  cases ha : w.account? id with
  | none => rfl
  | some a =>
    have hs : Storable (LawfulStore.Keeps S) _ := SmsFactor.storable_smsEnabled false
    dsimp only
    split
    · rfl
    · dsimp only
      rw [outline_logged, outline_changed_same (h.changed ha hs) (account?_changed_self h ha hs)
        OtpChallenge.storable_clearOtp rfl, outline_changed h ha hs (f := fun t => t) rfl]
      rfl

theorem shows_generateTotp (id : String) : (Operation.generateTotp id).Shows setup w := by
  intro left
  rw [Operation.run_generateTotp, TotpFactor.runOn_generate h]
  cases ha : w.account? id with
  | none => rfl
  | some a =>
    dsimp only
    cases Totp.checkConfig setup.totp with
    | error f => rfl
    | ok _ => exact outline_changed_same (h.drew _) ha (TotpFactor.storable_totpSecret _) rfl

theorem shows_enableTotp (id code : String) : (Operation.enableTotp id code).Shows setup w := by
  intro left
  rw [Operation.run_enableTotp, TotpFactor.runOn_enable h]
  cases ha : w.account? id with
  | none => rfl
  | some a =>
    dsimp only
    cases TotpFactor.usableSecret? a.credentials with
    | none => rfl
    | some secret =>
      dsimp only
      rcases hv : Totp.verify setup.totp secret code w.clock with ⟨e | f⟩ | ⟨_ | _⟩
      · exact (TotpFactor.verify_ne_refused _ _ _ _ e hv).elim
      · rfl
      · exact outline_logged ..
      · dsimp only
        rw [outline_logged, outline_changed h ha (TotpFactor.storable_totpEnabled true)
          (f := fun t => { t with totpEnabled := true }) rfl]
        rfl

theorem shows_disableTotp (id code : String) : (Operation.disableTotp id code).Shows setup w := by
  intro left
  rw [Operation.run_disableTotp, TotpFactor.runOn_disable h]
  cases ha : w.account? id with
  | none => rfl
  | some a =>
    dsimp only
    split
    · rfl
    · cases TotpFactor.usableSecret? a.credentials with
      | none => rfl
      | some secret =>
        dsimp only
        rcases hv : Totp.verify setup.totp secret code w.clock with ⟨e | f⟩ | ⟨_ | _⟩
        · exact (TotpFactor.verify_ne_refused _ _ _ _ e hv).elim
        · rfl
        · exact outline_logged ..
        · dsimp only
          rw [outline_logged, outline_changed h ha TotpFactor.storable_removal
            (f := fun t => { t with totpEnabled := false }) rfl]
          rfl

theorem shows_validateTotp (id code : String) : (Operation.validateTotp id code).Shows setup w := by
  intro left
  have hr : (Operation.validateTotp id code).run setup w = _ := Action.runOn_map ..
  rw [hr, TotpFactor.runOn_validate h]
  unfold Outline.next
  dsimp only
  cases ha : w.account? id with
  | none =>
    rw [tallies_of_missing ha]
    rfl
  | some a =>
    have hon : a.tally.totpEnabled = a.credentials.totpEnabled := rfl
    rw [tallies_of_account? ha, Option.any_some, hon]
    dsimp only
    cases a.credentials.totpEnabled with
    | false => rfl
    | true =>
      cases TotpFactor.usableSecret? a.credentials with
      | none => rfl
      | some secret =>
        dsimp only
        rcases hv : Totp.verify setup.totp secret code w.clock with ⟨e | f⟩ | ⟨_ | _⟩
        · exact (TotpFactor.verify_ne_refused _ _ _ _ e hv).elim
        · rfl
        · exact outline_logged ..
        · exact outline_logged ..

theorem shows_generateBackup (id : String) : (Operation.generateBackup id).Shows setup w := by
  intro left
  rw [Operation.run_generateBackup]
  have hends := BackupVault.ends_generate h setup id
  generalize (BackupVault.generate setup id).runOn w = r at hends ⊢
  cases hends with
  | @failed f => cases f <;> rfl
  | @made a kept ha he hk =>
    have hcodes : (a.changed [.backupCodes (kept ++ [.ofText (BackupVault.nextCode setup w) w.clock])]).tally =
        { a.tally with hasBackupCodes := true } := by
      cases kept <;> rfl
    dsimp only
    rw [outline_logged, outline_changed (h.drew _) ha (BackupVault.storable_made h ha hk _)
      (f := fun t => { t with hasBackupCodes := true }) hcodes]
    rfl

theorem shows_verifyBackup (id code : String) : (Operation.verifyBackup id code).Shows setup w := by
  intro left
  rw [Operation.run_verifyBackup, BackupVault.runOn_verify h]
  unfold Outline.next
  dsimp only
  cases ha : w.account? id with
  | none =>
    rw [tallies_of_missing ha]
    rfl
  | some a =>
    have hon : (a.tally.totpEnabled && a.tally.hasBackupCodes) = true ↔
        ¬(!a.credentials.totpEnabled ∨ a.credentials.backupCodes.isEmpty) := by
      simp [Account.tally]
    rw [tallies_of_account? ha, Option.any_some]
    dsimp only
    by_cases hoff : !a.credentials.totpEnabled ∨ a.credentials.backupCodes.isEmpty
    · rw [if_pos hoff, if_neg (fun hb => hon.1 hb hoff)]
    · rw [if_neg hoff, if_pos (hon.2 hoff)]
      rcases BackupVault.findUnused? code a.credentials.backupCodes with f | _ | i
      · rfl
      · exact outline_logged ..
      · have hspent : (a.changed [.backupCodes (a.credentials.backupCodes.modify i (·.spentAt w.clock))]).tally =
            a.tally := by
          have hempty : (a.credentials.backupCodes.modify i (·.spentAt w.clock)).isEmpty =
              a.credentials.backupCodes.isEmpty := by
            cases a.credentials.backupCodes <;> cases i <;> rfl
          exact congrArg (fun b => { a.tally with hasBackupCodes := !b }) hempty
        dsimp only
        rw [outline_logged, outline_changed_same h ha (BackupVault.storable_modify_spent h ha i) hspent]
        rfl

/-- **Every call** changes the outline by what is seen of it. -/
theorem outline_run (op : Operation) :
    (op.run setup w).2.outline = w.outline.next setup.audited setup.sources.accountIds (countKept S) op (.of (op.run setup w).1)
      (op.left? (op.run setup w).2.outline (op.run setup w).1) := by
  cases op with
  | login identifier password c => exact outline_login h identifier password c
  | finishLogin id code c => exact shows_finish h id code c _
  | refresh token c => exact shows_refresh h token c _
  | logout token c =>
    rw [Operation.run_logout setup h, Login.runOn_logout h]
    exact outline_logged ..
  | register r => exact shows_register h r _
  | issueOtp id purpose number =>
    rw [Operation.run_issueOtp]
    obtain ⟨v, hr, hv⟩ | ⟨f, v, hr, hv, -⟩ := outline_issue setup h setup.otp id purpose number
    · rw [hr]
      exact hv
    · rw [hr]
      cases f <;> exact hv
  | verifyOtp id code purpose =>
    rw [Operation.run_verifyOtp]
    obtain ⟨a, v, hr, hv⟩ | ⟨e, v, hr, hv⟩ := outline_verify setup h id code purpose
    · rw [hr]
      exact hv
    · rw [hr]
      exact hv
  | clearOtp id =>
    rw [Operation.run_clearOtp, OtpChallenge.runOn_clear h]
    cases ha : w.account? id with
    | none => rfl
    | some a => exact outline_changed_same h ha OtpChallenge.storable_clearOtp rfl
  | initiatePhone id number => exact shows_initiate h id number _
  | verifyPhone id code =>
    rw [Operation.run_verifyPhone]
    obtain ⟨a, v, hr, hv⟩ | ⟨e, v, hr, hv⟩ := outline_verify setup h id code .phoneVerification
    · rw [hr]
      exact hv
    · rw [hr]
      exact hv
  | enableSms id => exact shows_enableSms h id _
  | disableSms id => exact shows_disableSms h id _
  | generateTotp id => exact shows_generateTotp h id _
  | enableTotp id code => exact shows_enableTotp h id code _
  | disableTotp id code => exact shows_disableTotp h id code _
  | validateTotp id code => exact shows_validateTotp h id code _
  | generateBackup id => exact shows_generateBackup h id _
  | verifyBackup id code => exact shows_verifyBackup h id code _
  | remainingBackup id =>
    rw [Operation.run_remainingBackup, BackupVault.runOn_remaining h]
    (repeat' split) <;> rfl

end Call

end AccountSecurity
