import AccountSecurity.Proofs.Service.Frame
import AccountSecurity.Proofs.Store.Local

/-!
# What the services read

A call for an account does not depend on other accounts: in two states that differ in the records of others only, it
gives the same and goes on in two such states.

* `AgreesOn` : two states that differ at most in the records of other accounts;
* `Local` : an operation that reads and writes the record of one account only. Operations are put together by
  `Local.bind`;
* `local_enableTotp` and its like : the calls for one account that open no session.
-/

namespace AccountSecurity
open World RecordStore
variable {S : Type} [AccountStore S] [RecordStore S] {setup : Setup} {w v : World S} {id : String}

/-- Two states that differ at most in the records of accounts other than one. -/
structure AgreesOn (id : String) (w v : World S) : Prop where
  valid : Valid w.store
  valid_other : Valid v.store
  record_eq : record v.store id = record w.store id
  rest : v = { w with store := v.store }

/-- An operation that depends on the record of one account and changes no other, nor a session. -/
def Local {α : Type} (id : String) (a : Op S α) : Prop :=
  ∀ w v, AgreesOn id w v →
    (a.runOn v).1 = (a.runOn w).1 ∧ AgreesOn id (a.runOn w).2 (a.runOn v).2 ∧
      (∀ k, k ≠ id → record (a.runOn w).2.store k = record w.store k) ∧ (a.runOn w).2.sessions = w.sessions

/-- An operation that has nothing to do with store and sessions. -/
def Storeless {α : Type} (a : Op S α) : Prop :=
  ∀ (w : World S) (s : S), a.runOn { w with store := s } = ((a.runOn w).1, { (a.runOn w).2 with store := s }) ∧
    (a.runOn w).2.sessions = w.sessions

namespace Local
variable {α β : Type}

theorem bind {a : Op S α} {f : α → Op S β} (ha : Local id a) (hf : ∀ r, Local id (f r)) : Local id (a >>= f) := by
  intro w v h
  obtain ⟨hresult, hagree, hothers, hsessions⟩ := ha w v h
  rw [Action.runOn_bind, Action.runOn_bind]
  rcases hw : a.runOn w with ⟨result, w'⟩
  rcases hv : a.runOn v with ⟨result', v'⟩
  rw [hw, hv] at hresult hagree
  rw [hw] at hothers hsessions
  obtain rfl : result' = result := hresult
  cases result' with
  | error e => exact ⟨rfl, hagree, hothers, hsessions⟩
  | ok r =>
    obtain ⟨hresult', hagree', hothers', hsessions'⟩ := hf r w' v' hagree
    exact ⟨hresult', hagree', fun k hk => (hothers' k hk).trans (hothers k hk), hsessions'.trans hsessions⟩

theorem of_storeless {a : Op S α} (ha : Storeless a) : Local id a := by
  intro w v h
  have hstore : (a.runOn w).2.store = w.store := congrArg (fun x => x.2.store) (ha w w.store).1
  have hv : a.runOn v = ((a.runOn w).1, { (a.runOn w).2 with store := v.store }) := by
    rw [h.rest]
    exact (ha w v.store).1
  rw [hv]
  refine ⟨rfl, ⟨?_, h.valid_other, ?_, rfl⟩, fun k _ => ?_, (ha w w.store).2⟩
  · rw [hstore]
    exact h.valid
  · rw [hstore]
    exact h.record_eq
  · rw [hstore]

theorem ret (r : α) : Local id (pure r : Op S α) := .of_storeless fun _ _ => ⟨rfl, rfl⟩

theorem refuse (e : SecurityError) : Local id (Action.refuse e : Op S α) := .of_storeless fun _ _ => ⟨rfl, rfl⟩

theorem fail (f : Fault) : Local id (Action.fail f : Op S α) := .of_storeless fun _ _ => ⟨rfl, rfl⟩

theorem ofExcept (r : Except Failure α) : Local id (Action.ofExcept r : Op S α) := by
  cases r <;> exact .of_storeless fun _ _ => ⟨rfl, rfl⟩

theorem map {a : Op S α} (f : α → β) (ha : Local id a) : Local id (f <$> a) := by
  rw [← bind_pure_comp]
  exact ha.bind fun _ => ret _

/-- A call of the store that depends on the record of an account and replaces it at most. -/
theorem onStore {a : Action S α} (ha : ReadsOnly id a)
    (hw : ∀ s, Valid s → Valid (a.runOn s).2 ∧ ∃ r, record (a.runOn s).2 = Function.update (record s) id r) :
    Local id (World.onStore a) := by
  intro w v h
  obtain ⟨hresult, hrecord⟩ := ha w.store v.store h.record_eq
  obtain ⟨hvalid, r, hr⟩ := hw w.store h.valid
  obtain ⟨hvalid', -⟩ := hw v.store h.valid_other
  unfold World.onStore
  rw [Action.runOn_within, Action.runOn_within]
  refine ⟨hresult, ⟨hvalid, hvalid', hrecord, ?_⟩, fun k hk => ?_, rfl⟩
  · rw [h.rest]
  · show record (a.runOn w.store).2 k = _
    rw [hr, Function.update_of_ne hk]

end Local

/-! ## Operations without the store -/

section
omit [AccountStore S] [RecordStore S]

theorem runOn_orFail {α : Type} (f : Fault) (o : Option α) (w : World S) :
    (Action.orFail f o : Op S α).runOn w = (o.elim (.error (.fault f)) .ok, w) := by
  cases o <;> rfl

theorem storeless_utcNow : Storeless (S := S) utcNow := fun w s => by
  have hrun (w : World S) : utcNow.runOn w = (w.clock.toUtc?.elim (.error (.fault .timeRange)) .ok, w) := by
    unfold utcNow
    rw [Action.runOn_bind_of_ok (Action.runOn_get w), runOn_orFail]
  rw [hrun, hrun]
  exact ⟨rfl, rfl⟩

theorem storeless_draw (setup : Setup) : Storeless (S := S) (draw setup) := fun w s => by
  rw [runOn_draw, runOn_draw]
  exact ⟨rfl, rfl⟩

theorem storeless_drawMany (setup : Setup) (count : Nat) : Storeless (S := S) (drawMany setup count) := fun w s => by
  rw [runOn_drawMany, runOn_drawMany]
  exact ⟨rfl, rfl⟩

theorem storeless_send (setup : Setup) (m : TextMessage) : Storeless (S := S) (send setup m) := fun w s => by
  obtain ⟨_, _, _, _, _, outage, _, _, _⟩ := w
  rw [runOn_send, runOn_send]
  cases outage <;> exact ⟨rfl, rfl⟩

theorem storeless_check (setup : Setup) (secret submitted : String) :
    Storeless (S := S) (TotpFactor.check setup secret submitted) := fun w s => by
  have hrun (w : World S) : (TotpFactor.check setup secret submitted).runOn w =
      (Totp.verify setup.totp secret submitted w.clock, w) := by
    unfold TotpFactor.check
    rw [Action.runOn_bind_of_ok (Action.runOn_get w), Action.runOn_ofExcept]
  rw [hrun, hrun]
  exact ⟨rfl, rfl⟩

end

theorem local_utcNow : Local (S := S) id utcNow := .of_storeless storeless_utcNow

theorem local_minutesFromNow (minutes : Int) : Local (S := S) id (minutesFromNow minutes) := by
  refine .bind local_utcNow fun now => ?_
  cases now.addMinutes? minutes with
  | none => exact .fail _
  | some t => exact .ret t

theorem local_record {t : EventType} {p : Option String} {c : Option RequestContext} {e : Option SecurityError}
    {m : List (String × Json)} : Local (S := S) id (World.record setup t p c e m) := by
  unfold World.record
  split
  · exact .bind local_utcNow fun now => .of_storeless fun _ _ => ⟨rfl, rfl⟩
  · exact .ret ()

theorem local_reject {α : Type} {purpose : OtpPurpose} {e : SecurityError} :
    Local (S := S) id (OtpChallenge.reject (α := α) setup id purpose e) :=
  .bind local_record fun _ => .refuse _

theorem local_hasExpired (slot : OtpSlot) : Local (S := S) id (OtpChallenge.hasExpired slot) := by
  unfold OtpChallenge.hasExpired
  cases slot.expiresAt with
  | none => exact .ret true
  | some t => exact .bind local_utcNow fun now => .ret _

theorem local_wrongCode : Local (S := S) id (TotpFactor.recordWrongCode setup id) := local_record

/-! ## The account -/

variable [LocalStore S]

theorem local_requireAccount : Local (S := S) id (requireAccount id) := by
  have hfind : Local (S := S) id (World.onStore (AccountStore.findById id)) := by
    refine .onStore (LocalStore.findById id) fun s hs => ?_
    obtain ⟨found, hr, -⟩ := runOn_findById id hs
    rw [hr]
    exact ⟨hs, _, (Function.update_eq_self ..).symm⟩
  unfold requireAccount
  refine .bind hfind fun found => ?_
  cases found with
  | none => exact .refuse _
  | some a => exact .ret a

theorem local_changeCredentials {changes : List CredentialChange} :
    Local (S := S) id (changeCredentials id changes) := by
  refine .onStore (LocalStore.updateCredentials id changes) fun s hs => ?_
  obtain ⟨result, t, r, hr, ht, hrec, -⟩ := runOn_updateCredentials id changes hs
  rw [hr]
  exact ⟨ht, r, hrec⟩

theorem local_updateNumber {number : Option String} :
    Local (S := S) id (World.onStore (AccountStore.updateProfile id [.phoneNumber number])) := by
  refine .onStore (LocalStore.updateNumber id number) fun s hs => ?_
  obtain ⟨result, t, r, hr, ht, hrec, -⟩ := runOn_updateProfile id number hs
  rw [hr]
  exact ⟨ht, r, hrec⟩

/-! ## Codes by message -/

theorem local_issue {config : OtpConfig} {purpose : OtpPurpose} {number : Option String} :
    Local (S := S) id (OtpChallenge.issue setup config id purpose number) := by
  have hdraw : Local (S := S) id (OtpChallenge.drawCode setup config) := by
    refine .bind (.of_storeless (storeless_draw setup)) fun n => ?_
    cases drawnCode config.codeLength n with
    | error f => exact .fail f
    | ok code => exact .ret code
  unfold OtpChallenge.issue
  refine .bind local_requireAccount fun a => ?_
  cases (OtpChallenge.nonempty? number).or (OtpChallenge.nonempty? a.phoneNumber) with
  | none => exact .refuse _
  | some destination =>
    exact .bind hdraw fun code => .bind (local_minutesFromNow _) fun expiresAt =>
      .bind local_changeCredentials fun _ =>
        .bind (.of_storeless (storeless_send _ _)) fun _ => local_record

theorem local_verify (id submitted : String) (purpose : OtpPurpose) :
    Local (S := S) id (OtpChallenge.verify setup id submitted purpose) := by
  unfold OtpChallenge.verify
  refine .bind local_requireAccount fun a => ?_
  extract_lets slot next
  have hnext (u : Unit) : Local (S := S) id (next u) := by
    dsimp only [next]
    cases OtpChallenge.pendingFor? slot purpose with
    | none => exact local_reject
    | some code =>
      refine .bind (local_hasExpired _) fun expired => ?_
      split
      · exact .bind local_changeCredentials fun _ => local_reject
      · split
        · exact local_reject
        · exact .bind local_changeCredentials fun _ => .bind local_record fun _ => .ret a
  -- an expiry without a code is swept before the code is looked at
  split
  · exact .bind local_changeCredentials hnext
  · exact hnext ()

/-! ## The SMS factor -/

theorem local_initiate (id number : String) : Local (S := S) id (SmsFactor.initiate setup id number) := by
  unfold SmsFactor.initiate
  refine .bind local_requireAccount fun a => ?_
  dsimp only
  split
  · exact .bind local_updateNumber fun _ => .bind local_changeCredentials fun _ => local_issue
  · exact local_issue

theorem local_verifyPhone (id submitted : String) : Local (S := S) id (SmsFactor.verifyPhone setup id submitted) :=
  .bind (local_verify id submitted _) fun _ => .ret true

theorem local_enableSms (id : String) : Local (S := S) id (SmsFactor.enable setup id) := by
  unfold SmsFactor.enable
  refine .bind local_requireAccount fun a => ?_
  split
  · exact .refuse _
  · exact .bind local_changeCredentials fun _ => .bind local_record fun _ => .ret true

theorem local_disableSms (id : String) : Local (S := S) id (SmsFactor.disable setup id) := by
  unfold SmsFactor.disable
  refine .bind local_requireAccount fun a => ?_
  split
  · exact .refuse _
  · exact .bind local_changeCredentials fun _ => .bind local_changeCredentials fun _ =>
      .bind local_record fun _ => .ret true

/-! ## Authenticator apps -/

theorem local_generateTotp (id : String) : Local (S := S) id (TotpFactor.generate setup id) := by
  unfold TotpFactor.generate
  exact .bind local_requireAccount fun a => .bind (.of_storeless (storeless_drawMany _ _)) fun draws =>
    .bind (.ofExcept _) fun _ => .bind local_changeCredentials fun _ => .ret _

theorem local_enableTotp (id submitted : String) : Local (S := S) id (TotpFactor.enable setup id submitted) := by
  unfold TotpFactor.enable
  refine .bind local_requireAccount fun a => ?_
  split
  · exact .refuse _
  · refine .bind (.of_storeless (storeless_check _ _ _)) fun right => ?_
    split
    · exact .bind local_changeCredentials fun _ => .bind local_record fun _ => .ret true
    · exact .bind local_wrongCode fun _ => .refuse _

theorem local_disableTotp (id submitted : String) : Local (S := S) id (TotpFactor.disable setup id submitted) := by
  unfold TotpFactor.disable
  refine .bind local_requireAccount fun a => ?_
  split
  · exact .refuse _
  split
  · exact .refuse _
  · refine .bind (.of_storeless (storeless_check _ _ _)) fun right => ?_
    split
    · exact .bind local_changeCredentials fun _ => .bind local_record fun _ => .ret true
    · exact .bind local_wrongCode fun _ => .refuse _

theorem local_validateTotp (id submitted : String) : Local (S := S) id (TotpFactor.validate setup id submitted) := by
  unfold TotpFactor.validate
  refine .bind local_requireAccount fun a => ?_
  split
  · exact .ret true
  split
  · exact .refuse _
  · refine .bind (.of_storeless (storeless_check _ _ _)) fun right => ?_
    dsimp only
    split
    · exact .bind local_record fun _ => .ret right
    · exact .bind local_wrongCode fun _ => .ret right

/-! ## Backup codes -/

theorem local_generateBackup (id : String) : Local (S := S) id (BackupVault.generate setup id) := by
  unfold BackupVault.generate
  refine .bind local_requireAccount fun a => ?_
  split
  · exact .refuse _
  split
  · exact .fail _
  cases hk : BackupVault.makeRoom setup.backup.maxStored a.credentials.backupCodes with
  | error e =>
    rw [BackupVault.eq_of_makeRoom_error hk]
    exact .refuse _
  | ok kept =>
    exact .bind (.of_storeless (storeless_drawMany _ _)) fun draws => .bind local_utcNow fun now =>
      .bind local_changeCredentials fun _ => .bind local_record fun _ => .ret _

theorem local_verifyBackup (id submitted : String) : Local (S := S) id (BackupVault.verify setup id submitted) := by
  unfold BackupVault.verify
  refine .bind local_requireAccount fun a => ?_
  dsimp only
  split
  · exact .ret false
  cases BackupVault.findUnused? submitted a.credentials.backupCodes with
  | error f => exact .fail f
  | ok found =>
    cases found with
    | none => exact .bind local_record fun _ => .ret false
    | some i =>
      exact .bind local_utcNow fun now => .bind local_changeCredentials fun _ =>
        .bind local_record fun _ => .ret true

end AccountSecurity
