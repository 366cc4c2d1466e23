import AccountSecurity.Proofs.Store.Faithful

/-!
# The store in a table is lawful

A table whose rows can be read goes with a store in memory, so that a call does to the account under an identifier what
it does there.

* `Storable.kept` : what the services store, the columns keep as it is;
* `RelationalStore.accountOf?`, `RelationalStore.accountOf?_eq` : the account under an identifier is the one in memory;
* `Orderly.runOn_findById`, `Orderly.runOn_updateCredentials`, `Orderly.runOn_create`, … : each call, and the instance of
  `LawfulStore` that they make;
* `valid_afterAll` : the tables that calls lead to.
-/

namespace AccountSecurity

/-! ## What the services store -/

/-- What the services store, the columns keep as it is. -/
theorem CredentialChange.Storable.kept {c : CredentialChange} (h : c.Storable BackupCode.HasReadableOffsets) :
    c.Kept := by
  cases c with
  | loginAttempts n =>
    obtain rfl : n = 0 := h
    exact (by decide : fitsColumn 0)
  | _ => first | exact h | exact h.elim

theorem Storable.kept {changes : List CredentialChange} (h : Storable BackupCode.HasReadableOffsets changes) :
    ∀ c ∈ changes, c.Kept := fun c hc => (h.2 c hc).kept

/-- What a store keeps, one that keeps more codes keeps as well. -/
theorem Storable.mono {keeps keeps' : BackupCode → Prop} {changes : List CredentialChange} (h : Storable keeps changes)
    (hkeeps : ∀ code, keeps code → keeps' code) : Storable keeps' changes := by
  refine ⟨h.1, fun c hc => ?_⟩
  have hstorable := h.2 c hc
  cases c with
  | backupCodes codes => exact fun code hcode => hkeeps code (hstorable code hcode)
  | _ => exact hstorable

theorem Credentials.kept_of_hash (passwordHash : String) : Credentials.Kept { passwordHash } where
  gaps := rfl
  loginAttempts := (by decide : fitsColumn 0)
  lockedUntil _ h := nomatch h
  otpExpiresAt _ h := nomatch h
  lastLogin _ h := nomatch h
  backupCodes _ h := nomatch h

namespace RelationalStore

/-! ## The account under an identifier -/

/-- The account under an identifier, if its row can be read. -/
def accountOf? (s : RelationalStore) (id : String) : Option Account :=
  (s.rowOf? id).bind fun r => r.account.toOption

variable {s : RelationalStore} {m t : MemoryStore} {id : String} {a : Account}

theorem exists_row_of_accountOf? (h : s.accountOf? id = some a) : ∃ r, s.rowOf? id = some r ∧ r.account = .ok a := by
  obtain ⟨r, hr, ha⟩ := Option.bind_eq_some_iff.1 h
  refine ⟨r, hr, ?_⟩
  cases hacc : r.account with
  | error f =>
    rw [hacc] at ha
    cases ha
  | ok b =>
    rw [hacc] at ha
    cases ha
    rfl

/-- A table stands for the accounts that are under their identifiers in memory. -/
theorem accountOf?_eq (h : FaithfulStore.Mirrors s m) : s.accountOf? = m.accounts.get? := by
  funext id
  have hl := congrArg (Option.bind · Except.toOption) (h.1.lookup id)
  rw [Option.bind_map, Option.bind_map] at hl
  refine hl.trans ?_
  cases m.accounts.get? id <;> rfl

theorem orderly_of_mirrors (h : FaithfulStore.Mirrors s m) : s.Orderly := exists_holds_iff.1 ⟨_, m, h, rfl⟩

/-- What a call does to the accounts in memory, it does to those of the table. -/
theorem Orderly.of_mirrors {u : RelationalStore} {b : Account} (h : FaithfulStore.Mirrors s m)
    (hu : FaithfulStore.Mirrors u t) (ht : t.accounts.get? = Function.update m.accounts.get? id (some b)) :
    u.Orderly ∧ u.accountOf? = Function.update s.accountOf? id (some b) :=
  ⟨orderly_of_mirrors hu, by rw [accountOf?_eq hu, accountOf?_eq h, ht]⟩

/-! ## Calls -/

namespace Orderly
variable (h : s.Orderly)
include h

theorem exists_memory : ∃ m, FaithfulStore.Mirrors s m := h.exists_mirrors

theorem runOn_findById (id : String) : (findById id).runOn s = (.ok (s.accountOf? id), s) := by
  obtain ⟨m, hm⟩ := h.exists_memory
  rw [RelationalStore.runOn_findById, runOn_read (hm.1.lookup id), accountOf?_eq hm]

theorem runOn_findByIdentifier (identifier : String) :
    ∃ found : Option Account, (findByIdentifier identifier).runOn s = (.ok found, s) ∧
      ∀ a ∈ found, s.accountOf? a.id = some a := by
  obtain ⟨m, hm⟩ := h.exists_memory
  rw [RelationalStore.runOn_findByIdentifier, runOn_read (hm.1.find_email hm.2 _), accountOf?_eq hm]
  refine ⟨_, rfl, fun a ha => ?_⟩
  obtain ⟨id, -, hid⟩ := Option.bind_eq_some_iff.1 ha
  rw [hm.2.keyed id a hid]
  exact hid

section Storable
variable {changes : List CredentialChange} (hs : Storable BackupCode.HasReadableOffsets changes)
include hs

theorem runOn_updateCredentials (ha : s.accountOf? id = some a) :
    ∃ u, (updateCredentials id changes).runOn s = (.ok (), u) ∧ u.Orderly ∧
      u.accountOf? = Function.update s.accountOf? id (some (a.changed changes)) := by
  obtain ⟨m, hm⟩ := h.exists_memory
  rw [accountOf?_eq hm] at ha
  have hmemory : Storable (LawfulStore.Keeps MemoryStore) changes := hs.mono fun _ _ => trivial
  obtain ⟨t, hr, -, ht⟩ := LawfulStore.runOn_updateCredentials hm.2.linked ha hmemory
  obtain ⟨u, hu, hmu⟩ := FaithfulStore.runOn_updateCredentials hm hs.1 hs.kept hr
  exact ⟨u, hu, of_mirrors hm hmu ht⟩

theorem runOn_updateCredentials_missing (ha : s.accountOf? id = none) :
    (updateCredentials id changes).runOn s = (.error (.refused (.accountNotFound id)), s) := by
  obtain ⟨m, hm⟩ := h.exists_memory
  rw [accountOf?_eq hm] at ha
  have hrecord : changes.findSome? CredentialChange.recordFault? = none :=
    findSome?_recordFault?_eq_none.2 (List.any_eq_false.2 fun c hc => by simp [(hs.kept c hc).allowed])
  have hlarge : changes.any CredentialChange.isTooLarge = false :=
    List.any_eq_false.2 fun c hc => by simp [(hs.kept c hc).allowed]
  rw [RelationalStore.runOn_updateCredentials, if_neg (by simp [unknownCredentialFields_of_storable hs]), hrecord]
  dsimp only
  rw [if_neg (by simpa using hs.1), if_neg (by simp [hlarge]), hm.1.rowOf?_eq_none ha]
  rfl

end Storable

theorem runOn_updateProfile (phoneNumber : Option String) (ha : s.accountOf? id = some a) :
    ∃ u, (updateProfile id [.phoneNumber phoneNumber]).runOn s = (.ok (), u) ∧ u.Orderly ∧
      u.accountOf? = Function.update s.accountOf? id (some (a.renumbered phoneNumber)) := by
  obtain ⟨m, hm⟩ := h.exists_memory
  rw [accountOf?_eq hm] at ha
  obtain ⟨t, hr, -, ht⟩ := LawfulStore.runOn_updateProfile (S := MemoryStore) phoneNumber hm.2.linked ha
  have hkept : ∀ c ∈ [ProfileChange.phoneNumber phoneNumber], c.Kept := List.forall_mem_singleton.2 trivial
  obtain ⟨u, hu, hmu⟩ :=
    FaithfulStore.runOn_updateProfile hm (List.cons_ne_nil _ _) hkept (List.nodup_singleton _) hr
  exact ⟨u, hu, of_mirrors hm hmu ht⟩

/-- Nothing is left out in an account that the table stands for, so that its wrong passwords can be counted. -/
theorem runOn_incrementAttempts (ha : s.accountOf? id = some a) :
    a.credentials.gaps.loginAttempts = false ∧
    ∃ u, (incrementAttempts id).runOn s = (.ok (min (a.credentials.loginAttempts + 1) columnBound), u) ∧ u.Orderly ∧
      u.accountOf? = Function.update s.accountOf? id
        (some (a.counted (min (a.credentials.loginAttempts + 1) columnBound))) := by
  obtain ⟨m, hm⟩ := h.exists_memory
  obtain ⟨r, hr, hra⟩ := exists_row_of_accountOf? ha
  rw [accountOf?_eq hm] at ha
  have hrun := RelationalStore.runOn_incrementAttempts id s
  rw [hr] at hrun
  dsimp only at hrun
  rw [Row.loginAttempts_of_account hra]
  generalize min (r.loginAttempts + 1) columnBound = n at hrun ⊢
  refine ⟨by rw [Row.gaps_of_account hra], _, hrun, of_mirrors hm (t := m.stored id (a.counted n)) ?_ ?_⟩
  · exact ⟨hm.1.replaced rfl ha (fun _ => rfl) fun _ hrow => Row.account_counted hrow n, hm.2.stored ha rfl rfl⟩
  · exact Table.get?_put_eq_update ..

/-- A new account takes an identifier that no account has. Without a name it cannot be added. -/
theorem runOn_create {passwordHash : String} (hc : a.credentials = { passwordHash }) :
    (∃ e, (create a).runOn s = (.error e, s)) ∨
    ∃ u, (create a).runOn s = (.ok (), u) ∧ u.Orderly ∧ s.accountOf? a.id = none ∧
      u.accountOf? = Function.update s.accountOf? a.id (some { a with email := Text.fold a.email }) := by
  obtain ⟨m, hm⟩ := h.exists_memory
  have hkept : a.credentials.Kept := hc ▸ Credentials.kept_of_hash passwordHash
  obtain ⟨e, hr⟩ | ⟨name, hname, -, hnew⟩ := exists_runOn_create a s
  · exact .inl ⟨e, hr⟩
  have hconflict : ¬ (s.rows.any fun r => r.id == a.id || r.email == Text.fold a.email) = true := by
    simpa [not_or] using hnew
  have hfree := mt (hm.1.conflict_iff hm.2 a.id (Text.fold a.email)).2 hconflict
  have hmissing : m.accounts.get? a.id = none := by
    simpa [Table.contains] using fun hid => hfree (.inr hid)
  obtain ⟨u, hu, hmu⟩ := FaithfulStore.runOn_create hm (Option.isSome_iff_exists.2 ⟨name, hname⟩) hkept
    ((MemoryStore.runOn_create a m).trans (if_neg hfree))
  have hadded (email : String) : (m.added (a.readdressed email)).accounts.get? =
      Function.update m.accounts.get? a.id (some (a.readdressed email)) := Table.get?_put_eq_update ..
  obtain ⟨horderly, haccounts⟩ := of_mirrors hm hmu (hadded _)
  exact .inr ⟨u, hu, horderly, by rw [accountOf?_eq hm, hmissing], haccounts⟩

end Orderly

/-! ## The laws -/

instance : LawfulStore RelationalStore where
  Valid := Orderly
  lookup := accountOf?
  Counts n := n ≤ columnBound
  countKept n := min n columnBound
  countKept_of_counts := min_eq_left
  Keeps := BackupCode.HasReadableOffsets
  keeps_ofText _ _ ht := ⟨.inl ht, fun _ h => nomatch h⟩
  keeps_spentAt h ht := ⟨h.created, fun _ hu => Option.some.inj hu ▸ .inl ht⟩
  valid_empty := orderly_of_mirrors FaithfulStore.mirrors_empty
  lookup_empty _ := rfl
  id_of_lookup _ ha := by
    obtain ⟨r, hr, hra⟩ := exists_row_of_accountOf? ha
    rw [Row.id_of_account hra, (mem_of_rowOf? hr).2]
  keeps_of_lookup _ ha := by
    obtain ⟨r, -, hra⟩ := exists_row_of_accountOf? ha
    obtain ⟨codes, hcodes, rfl⟩ := Row.account_eq_ok hra
    exact BackupCode.hasReadableOffsets_of_mapM hcodes
  runOn_findById id h := h.runOn_findById id
  runOn_findByIdentifier identifier h := h.runOn_findByIdentifier identifier
  runOn_updateCredentials h ha hs := h.runOn_updateCredentials hs ha
  runOn_updateCredentials_missing h ha hs := h.runOn_updateCredentials_missing hs ha
  runOn_updateProfile phoneNumber h ha := h.runOn_updateProfile phoneNumber ha
  runOn_incrementAttempts h ha := by
    obtain ⟨hgap, hcounted⟩ := h.runOn_incrementAttempts ha
    rw [hgap]
    exact hcounted
  runOn_create h hc := h.runOn_create hc

/-- Whatever calls were made that hand over only what columns keep, the services can run on the table. -/
theorem valid_afterAll {calls : List StoreCall} (hkept : ∀ call ∈ calls, call.Kept) :
    LawfulStore.Valid (StoreCall.afterAll RelationalStore calls) :=
  exists_holds_iff.1 (exists_holds_afterAll hkept)

end RelationalStore

end AccountSecurity
