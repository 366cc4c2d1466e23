import AccountSecurity.Proofs.Store.Memory
import AccountSecurity.Proofs.Store.Relational
import AccountSecurity.Proofs.Store.Row

/-!
# What a store keeps of each account

A store keeps a record under each identifier: an account in memory, a row in a table. A call that names an account
writes the record of that account and no other, whether it succeeds or fails.

* `RecordStore` : a store with its records, and what its calls do to them;
* its instances : the store in memory and the store in a table.
-/

namespace AccountSecurity

/-- A store that keeps a record under each identifier. Unlike in a `LawfulStore`, a record may be one from which no
account can be read, and an update may be one that the store does not keep as it is. -/
class RecordStore (S : Type) [AccountStore S] where
  /-- What is kept of an account. -/
  Record : Type
  /-- The state is one that the store's operations lead to. -/
  Valid : S → Prop
  /-- The record under an identifier. -/
  record : S → String → Option Record
  phoneNumber : Record → Option String
  pendingCode : Record → Option String
  valid_empty : Valid AccountStore.empty
  runOn_findById {s : S} (id : String) : Valid s →
    ∃ found, (AccountStore.findById id).runOn s = (found, s) ∧
      ∀ a, found = .ok (some a) → a.id = id ∧ (record s id).map phoneNumber = some a.phoneNumber
  runOn_findByIdentifier {s : S} (identifier : String) : Valid s →
    ∃ found, (AccountStore.findByIdentifier identifier).runOn s = (found, s) ∧
      ∀ a, found = .ok (some a) → (record s a.id).map phoneNumber = some a.phoneNumber
  runOn_updateCredentials {s : S} (id : String) (changes : List CredentialChange) : Valid s →
    ∃ result t r, (AccountStore.updateCredentials id changes).runOn s = (result, t) ∧ Valid t ∧
      record t = Function.update (record s) id r ∧
      r.map phoneNumber = (record s id).map phoneNumber ∧
      ∀ code expiresAt purpose, changes = [.otpCode code, .otpExpiresAt expiresAt, .otpPurpose purpose] →
        result = .ok () → r.map pendingCode = some code
  runOn_updateProfile {s : S} (id : String) (number : Option String) : Valid s →
    ∃ result t r, (AccountStore.updateProfile id [.phoneNumber number]).runOn s = (result, t) ∧ Valid t ∧
      record t = Function.update (record s) id r ∧ (result = .ok () → r.map phoneNumber = some number)
  runOn_incrementAttempts {s : S} (id : String) : Valid s →
    ∃ result t r, (AccountStore.incrementAttempts id).runOn s = (result, t) ∧ Valid t ∧
      record t = Function.update (record s) id r
  runOn_create {s : S} (a : Account) : Valid s →
    ∃ result t, (AccountStore.create a).runOn s = (result, t) ∧ Valid t ∧
      ∀ k r, record s k = some r → record t k = some r

/-! ## Accounts in memory -/

namespace MemoryStore
variable {s : MemoryStore} {id : String} {a : Account}

theorem Keyed.stored (h : s.Keyed) {b : Account} (hb : b.id = id) : (s.stored id b).Keyed :=
  h.put b (by rw [hb]; rfl)

theorem get?_stored (b : Account) : (s.stored id b).accounts.get? = Function.update s.accounts.get? id (some b) :=
  Table.get?_put_eq_update ..

theorem get?_same (s : MemoryStore) (id : String) :
    s.accounts.get? = Function.update s.accounts.get? id (s.accounts.get? id) := (Function.update_eq_self ..).symm

/-- A new account takes no identifier that is in use. -/
theorem get?_added {k : String} {b : Account} (hn : s.accounts.get? b.id = none) (ha : s.accounts.get? k = some a) :
    (s.added b).accounts.get? k = some a := by
  have hne : b.id ≠ k := by
    rintro rfl
    cases hn.symm.trans ha
  rw [added, Table.get?_put, if_neg hne, ha]

theorem keyed_empty : empty.Keyed := fun _ _ h => by cases h

instance : RecordStore MemoryStore where
  Record := Account
  Valid := Keyed
  record s := s.accounts.get?
  phoneNumber a := a.phoneNumber
  pendingCode a := a.credentials.otp.code
  valid_empty := keyed_empty
  runOn_findById {s} id h := by
    refine ⟨_, rfl, fun a ha => ?_⟩
    have hget : s.accounts.get? id = some a := Except.ok.inj ha
    exact ⟨h id a hget, by rw [hget]; rfl⟩
  runOn_findByIdentifier {s} identifier h := by
    refine ⟨_, Prod.ext rfl (after_findByIdentifier identifier s), fun a ha => ?_⟩
    obtain ⟨id, -, hget⟩ := of_findByIdentifier ha
    rw [h id a hget, hget]
    rfl
  runOn_updateCredentials {s} id changes h := by
    have hr := runOn_updateCredentials id changes s
    by_cases hu : unknownCredentialFields changes ≠ []
    · exact ⟨_, _, _, hr.trans (if_pos hu), h, get?_same s id, rfl, fun _ _ _ _ hok => by cases hok⟩
    rw [if_neg hu] at hr
    cases ha : s.accounts.get? id with
    | none =>
      rw [ha] at hr
      exact ⟨_, _, _, hr, h, get?_same s id, by rw [ha], fun _ _ _ _ hok => by cases hok⟩
    | some a =>
      rw [ha] at hr
      refine ⟨_, _, _, hr, h.stored (h id a ha), get?_stored _, rfl, fun code expiresAt purpose hc _ => ?_⟩
      rw [hc]
      rfl
  runOn_updateProfile {s} id number h := by
    have hr := runOn_updateProfile id [.phoneNumber number] s
    cases ha : s.accounts.get? id with
    | none =>
      rw [ha] at hr
      exact ⟨_, _, _, hr, h, get?_same s id, fun hok => by cases hok⟩
    | some a =>
      rw [ha] at hr
      exact ⟨_, _, _, hr, h.stored (h id a ha), get?_stored _, fun _ => rfl⟩
  runOn_incrementAttempts {s} id h := by
    have hr := runOn_incrementAttempts id s
    cases ha : s.accounts.get? id with
    | none =>
      rw [ha] at hr
      exact ⟨_, _, _, hr, h, get?_same s id⟩
    | some a =>
      rw [ha] at hr
      by_cases hg : a.credentials.gaps.loginAttempts
      · exact ⟨_, _, _, hr.trans (if_pos hg), h, get?_same s id⟩
      · exact ⟨_, _, _, hr.trans (if_neg hg), h.stored (h id a ha), get?_stored _⟩
  runOn_create {s} a h := by
    have hr := runOn_create a s
    generalize Text.fold a.email = email at hr
    by_cases hc : s.emailIndex.contains email ∨ s.accounts.contains a.id
    · exact ⟨_, _, hr.trans (if_pos hc), h, fun _ _ hk => hk⟩
    · have hn : s.accounts.get? a.id = none := by
        simpa [Table.contains] using fun h => hc (.inr h)
      exact ⟨_, _, hr.trans (if_neg hc), h.put (a.readdressed email) rfl, fun _ _ => get?_added hn⟩

end MemoryStore

/-! ## Rows of a table -/

namespace RelationalStore
variable {s : RelationalStore} {id : String} {r : Row} {f : Row → Row}

theorem rowOf?_replaced_eq_update (hf : ∀ r, (f r).id = r.id) :
    (s.replaced id f).rowOf? = Function.update s.rowOf? id ((s.rowOf? id).map f) := by
  funext k
  rw [rowOf?_replaced hf]
  by_cases hk : id = k
  · subst hk
    rw [if_pos rfl, Function.update_self]
  · rw [if_neg hk, Function.update_of_ne (Ne.symm hk)]

theorem rowOf?_same (s : RelationalStore) (id : String) : s.rowOf? = Function.update s.rowOf? id (s.rowOf? id) :=
  (Function.update_eq_self ..).symm

/-- Reading a row changes nothing, and gives an account with the row's identifier and number. -/
theorem exists_runOn_read (found : Option Row) (s : RelationalStore) :
    ∃ result, (read found).runOn s = (result, s) ∧
      ∀ a, result = .ok (some a) → ∃ r, found = some r ∧ a.id = r.id ∧ a.phoneNumber = r.phoneNumber := by
  cases found with
  | none => exact ⟨_, rfl, fun a h => by cases h⟩
  | some r =>
    unfold read
    dsimp only
    cases hr : r.account with
    | error f => exact ⟨_, rfl, fun a h => by cases h⟩
    | ok b =>
      refine ⟨_, rfl, fun a h => ?_⟩
      obtain rfl := Option.some.inj (Except.ok.inj h)
      obtain ⟨codes, -, rfl⟩ := Row.account_eq_ok hr
      exact ⟨r, rfl, rfl, rfl⟩

theorem phoneNumber_applyCredentials (changes : List CredentialChange) (r : Row) :
    (changes.foldl Row.applyCredential r).phoneNumber = r.phoneNumber := by
  induction changes generalizing r with
  | nil => rfl
  | cons c rest ih =>
    rw [List.foldl_cons, ih]
    cases c with
    | absent field => cases field <;> rfl
    | _ => rfl

instance : RecordStore RelationalStore where
  Record := Row
  Valid := IdsUnique
  record := rowOf?
  phoneNumber := Row.phoneNumber
  pendingCode := Row.otpCode
  valid_empty := List.nodup_nil
  runOn_findById {s} id h := by
    obtain ⟨result, hr, hfound⟩ := exists_runOn_read (s.rowOf? id) s
    refine ⟨result, (runOn_findById id s).trans hr, fun a ha => ?_⟩
    obtain ⟨r, hrow, hid, hphone⟩ := hfound a ha
    rw [hid, (mem_of_rowOf? hrow).2, hrow, hphone]
    exact ⟨rfl, rfl⟩
  runOn_findByIdentifier {s} identifier h := by
    obtain ⟨result, hr, hfound⟩ :=
      exists_runOn_read (s.rows.find? fun r => Text.asciiLower r.email == Text.fold identifier) s
    refine ⟨result, (runOn_findByIdentifier identifier s).trans hr, fun a ha => ?_⟩
    obtain ⟨r, hrow, hid, hphone⟩ := hfound a ha
    rw [hid, rowOf?_of_mem h (List.mem_of_find?_eq_some hrow), hphone]
    rfl
  runOn_updateCredentials {s} id changes h := by
    have hr := runOn_updateCredentials id changes s
    have hsame := rowOf?_same s id
    split at hr
    · exact ⟨_, _, _, hr, h, hsame, rfl, fun _ _ _ _ hok => by cases hok⟩
    split at hr
    · exact ⟨_, _, _, hr, h, hsame, rfl, fun _ _ _ _ hok => by cases hok⟩
    split at hr
    · next hempty => exact ⟨_, _, _, hr, h, hsame, rfl, fun _ _ _ hc _ => by rw [hc] at hempty; cases hempty⟩
    split at hr
    · exact ⟨_, _, _, hr, h, hsame, rfl, fun _ _ _ _ hok => by cases hok⟩
    split at hr
    · exact ⟨_, _, _, hr, h, hsame, rfl, fun _ _ _ _ hok => by cases hok⟩
    next hrow =>
    split at hr
    · exact ⟨_, _, _, hr, h, hsame, rfl, fun _ _ _ _ hok => by cases hok⟩
    have hid := Row.applyCredentials_id changes
    obtain ⟨r, hget⟩ := Option.ne_none_iff_exists'.1 (mt Option.isNone_iff_eq_none.2 hrow)
    refine ⟨_, _, _, hr, h.replaced hid id, rowOf?_replaced_eq_update hid, ?_, fun code expiresAt purpose hc _ => ?_⟩
    · rw [hget, Option.map_some, Option.map_some, phoneNumber_applyCredentials]
      rfl
    · rw [hget, hc]
      rfl
  runOn_updateProfile {s} id number h := by
    have hr := runOn_updateProfile id [.phoneNumber number] s
    have hsame := rowOf?_same s id
    split at hr
    · exact ⟨_, _, _, hr, h, hsame, fun hok => by cases hok⟩
    split at hr
    · next hempty => cases hempty
    split at hr
    · exact ⟨_, _, _, hr, h, hsame, fun hok => by cases hok⟩
    split at hr
    · exact ⟨_, _, _, hr, h, hsame, fun hok => by cases hok⟩
    next hrow =>
    split at hr
    · exact ⟨_, _, _, hr, h, hsame, fun hok => by cases hok⟩
    have hid := Row.applyProfiles_id [.phoneNumber number]
    obtain ⟨r, hget⟩ := Option.ne_none_iff_exists'.1 (mt Option.isNone_iff_eq_none.2 hrow)
    refine ⟨_, _, _, hr, h.replaced hid id, rowOf?_replaced_eq_update hid, fun _ => ?_⟩
    rw [hget]
    rfl
  runOn_incrementAttempts {s} id h := by
    have hr := runOn_incrementAttempts id s
    cases hget : s.rowOf? id with
    | none =>
      rw [hget] at hr
      exact ⟨_, _, _, hr, h, rowOf?_same s id⟩
    | some r =>
      rw [hget] at hr
      have hid : ∀ r' : Row, ({ r' with loginAttempts := min (r.loginAttempts + 1) columnBound } : Row).id = r'.id :=
        fun _ => rfl
      exact ⟨_, _, _, hr, h.replaced hid id, rowOf?_replaced_eq_update hid⟩
  runOn_create {s} a h := by
    obtain ⟨e, hr⟩ | ⟨name, -, hr, hnew⟩ := exists_runOn_create a s
    · exact ⟨_, _, hr, h, fun _ _ hk => hk⟩
    · refine ⟨_, _, hr, h.appended fun r hmem => (hnew r hmem).1, fun k r hget => ?_⟩
      rw [rowOf?_appended, hget]
      rfl

end RelationalStore

end AccountSecurity
