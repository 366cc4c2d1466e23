import AccountSecurity.Proofs.Store.Records

/-!
# What a call of the store depends on

A call that names an account reads the record of that account and no other: in two stores with the same record it gives
the same, and leaves the same record.

* `RecordStore.ReadsOnly` : a call of the store that depends on one record;
* `LocalStore` : a store whose calls do so, with its instances.
-/

namespace AccountSecurity
open RecordStore

/-- What a call of the store gives, and the record that it leaves, depend on one record. -/
def RecordStore.ReadsOnly {S α : Type} [AccountStore S] [RecordStore S] (id : String) (a : Action S α) : Prop :=
  ∀ s t : S, record t id = record s id →
    (a.runOn t).1 = (a.runOn s).1 ∧ record (a.runOn t).2 id = record (a.runOn s).2 id

/-- A store whose calls for an account depend on its record. -/
class LocalStore (S : Type) [AccountStore S] [RecordStore S] : Prop where
  findById (id : String) : ReadsOnly id (AccountStore.findById (S := S) id)
  updateCredentials (id : String) (changes : List CredentialChange) :
    ReadsOnly id (AccountStore.updateCredentials (S := S) id changes)
  updateNumber (id : String) (number : Option String) :
    ReadsOnly id (AccountStore.updateProfile (S := S) id [.phoneNumber number])

namespace MemoryStore
variable {s t : MemoryStore} {id : String}

theorem get?_stored_self (s : MemoryStore) (id : String) (a : Account) :
    (s.stored id a).accounts.get? id = some a := by
  rw [get?_stored, Function.update_self]

instance : LocalStore MemoryStore where
  findById id s t h := ⟨congrArg Except.ok h, h⟩
  updateCredentials id changes s t h := by
    have h : t.accounts.get? id = s.accounts.get? id := h
    show ((updateCredentials id changes).runOn t).1 = ((updateCredentials id changes).runOn s).1 ∧
      (((updateCredentials id changes).runOn t).2).accounts.get? id =
        (((updateCredentials id changes).runOn s).2).accounts.get? id
    rw [runOn_updateCredentials, runOn_updateCredentials, h]
    split
    · exact ⟨rfl, h⟩
    · cases s.accounts.get? id with
      | none => exact ⟨rfl, h⟩
      | some a => exact ⟨rfl, (get?_stored_self ..).trans (get?_stored_self ..).symm⟩
  updateNumber id number s t h := by
    have h : t.accounts.get? id = s.accounts.get? id := h
    show ((updateProfile id [.phoneNumber number]).runOn t).1 = ((updateProfile id [.phoneNumber number]).runOn s).1 ∧
      (((updateProfile id [.phoneNumber number]).runOn t).2).accounts.get? id =
        (((updateProfile id [.phoneNumber number]).runOn s).2).accounts.get? id
    rw [runOn_updateProfile, runOn_updateProfile, h]
    split
    · exact ⟨rfl, h⟩
    · cases s.accounts.get? id with
      | none => exact ⟨rfl, h⟩
      | some a => exact ⟨rfl, (get?_stored_self ..).trans (get?_stored_self ..).symm⟩

end MemoryStore

namespace RelationalStore
variable {s t : RelationalStore} {id : String}

/-- Reading a row depends on the row. -/
theorem runOn_read_eq (found : Option Row) (s t : RelationalStore) :
    ((read found).runOn t).1 = ((read found).runOn s).1 ∧ ((read found).runOn t).2 = t := by
  cases found with
  | none => exact ⟨rfl, rfl⟩
  | some r =>
    unfold read
    dsimp only
    cases r.account <;> exact ⟨rfl, rfl⟩

theorem rowOf?_replaced_congr {f : Row → Row} (hf : ∀ r, (f r).id = r.id) (h : t.rowOf? id = s.rowOf? id) :
    (t.replaced id f).rowOf? id = (s.replaced id f).rowOf? id := by
  rw [rowOf?_replaced hf, rowOf?_replaced hf, if_pos rfl, if_pos rfl, h]

instance : LocalStore RelationalStore where
  findById id s t h := by
    have h : t.rowOf? id = s.rowOf? id := h
    show ((findById id).runOn t).1 = ((findById id).runOn s).1 ∧
      ((findById id).runOn t).2.rowOf? id = ((findById id).runOn s).2.rowOf? id
    rw [runOn_findById, runOn_findById, h]
    obtain ⟨hfound, ht⟩ := runOn_read_eq (s.rowOf? id) s t
    obtain ⟨-, hs⟩ := runOn_read_eq (s.rowOf? id) s s
    rw [ht, hs]
    exact ⟨hfound, h⟩
  updateCredentials id changes s t h := by
    have h : t.rowOf? id = s.rowOf? id := h
    show ((updateCredentials id changes).runOn t).1 = ((updateCredentials id changes).runOn s).1 ∧
      ((updateCredentials id changes).runOn t).2.rowOf? id = ((updateCredentials id changes).runOn s).2.rowOf? id
    rw [runOn_updateCredentials, runOn_updateCredentials, h]
    split
    · exact ⟨rfl, h⟩
    split
    · exact ⟨rfl, h⟩
    split
    · exact ⟨rfl, h⟩
    split
    · exact ⟨rfl, h⟩
    split
    · exact ⟨rfl, h⟩
    split
    · exact ⟨rfl, h⟩
    exact ⟨rfl, rowOf?_replaced_congr (Row.applyCredentials_id changes) h⟩
  updateNumber id number s t h := by
    have h : t.rowOf? id = s.rowOf? id := h
    have hfree (s : RelationalStore) : s.emailTaken id [.phoneNumber number] = false := rfl
    show ((updateProfile id [.phoneNumber number]).runOn t).1 = ((updateProfile id [.phoneNumber number]).runOn s).1 ∧
      ((updateProfile id [.phoneNumber number]).runOn t).2.rowOf? id =
        ((updateProfile id [.phoneNumber number]).runOn s).2.rowOf? id
    rw [runOn_updateProfile, runOn_updateProfile, h, hfree, hfree]
    split
    · exact ⟨rfl, h⟩
    split
    · exact ⟨rfl, h⟩
    split
    · exact ⟨rfl, h⟩
    split
    · exact ⟨rfl, h⟩
    split
    · exact ⟨rfl, h⟩
    exact ⟨rfl, rowOf?_replaced_congr (Row.applyProfiles_id _) h⟩

end RelationalStore

end AccountSecurity
