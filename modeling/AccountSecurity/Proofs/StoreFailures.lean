import AccountSecurity.Proofs.Store.Records
import AccountSecurity.Proofs.StoreAgreement

/-!
# Calls of a store that fail

* `StoreCall.cleanAt_memory`, `StoreCall.cleanAt_relational` : a call that fails leaves either store as it was;
* `StoreCall.misnamed?` : what an update fails with before anything else, the names of fields that do not exist;
* `StoreCall.IsIdle`, `StoreCall.Transferable` : the update changes no field, its values can be handed to the table;
* `calls_fail_cleanly` : so much for every call, and what an update of an account that does not exist gives. In the
  table, one that changes no field succeeds.
-/

namespace AccountSecurity

/-! ## A call that fails changes nothing -/

/-- The action leaves the state as it was, if it fails. -/
def Action.CleanAt {σ α : Type} (x : Action σ α) (s : σ) : Prop := ∀ e, x.outcome s = .error e → x.after s = s

namespace Action.CleanAt
variable {σ α β : Type} {x : Action σ α} {s : σ}

/-- An action that never writes is clean. -/
theorem of_after_eq (h : x.after s = s) : x.CleanAt s := fun _ _ => h

/-- An action that succeeds is clean, whatever it writes. -/
theorem of_ok {a : α} {t : σ} (h : x.runOn s = (.ok a, t)) : x.CleanAt s := by
  intro e he
  unfold Action.outcome at he
  rw [h] at he
  cases he

theorem of_runOn {r : Except Failure α} (h : x.runOn s = (r, s)) : x.CleanAt s :=
  of_after_eq (congrArg Prod.snd h)

theorem map (f : α → β) (h : x.CleanAt s) : (f <$> x).CleanAt s := by
  intro e he
  unfold Action.outcome at he
  rw [Action.runOn_map] at he
  unfold Action.after
  rw [Action.snd_runOn_map]
  refine h e ?_
  unfold Action.outcome
  cases hr : (x.runOn s).1 with
  | ok a => rw [hr] at he; cases he
  | error e' => rw [hr] at he; cases he; rfl

end Action.CleanAt

namespace MemoryStore
variable (s : MemoryStore)

theorem cleanAt_create (a : Account) : (create a).CleanAt s := by
  have hr := runOn_create a s
  split at hr
  · exact .of_runOn hr
  · exact .of_ok hr

theorem cleanAt_updateCredentials (id : String) (changes : List CredentialChange) :
    (updateCredentials id changes).CleanAt s := by
  have hr := runOn_updateCredentials id changes s
  split at hr
  · exact .of_runOn hr
  split at hr
  · exact .of_ok hr
  · exact .of_runOn hr

theorem cleanAt_updateProfile (id : String) (changes : List ProfileChange) : (updateProfile id changes).CleanAt s := by
  have hr := runOn_updateProfile id changes s
  -- the new address is compared with the index before either table is written
  repeat' split at hr
  all_goals first | exact .of_runOn hr | exact .of_ok hr

theorem cleanAt_incrementAttempts (id : String) : (incrementAttempts id).CleanAt s := by
  have hr := runOn_incrementAttempts id s
  split at hr
  · exact .of_runOn hr
  split at hr
  · exact .of_runOn hr
  · exact .of_ok hr

end MemoryStore

namespace RelationalStore
variable (s : RelationalStore)

theorem cleanAt_findById (id : String) : (findById id).CleanAt s := by
  obtain ⟨r, hr, -⟩ := exists_runOn_read (s.rowOf? id) s
  exact .of_runOn ((runOn_findById id s).trans hr)

theorem cleanAt_findByIdentifier (identifier : String) : (findByIdentifier identifier).CleanAt s := by
  obtain ⟨r, hr, -⟩ :=
    exists_runOn_read (s.rows.find? fun r => Text.asciiLower r.email == Text.fold identifier) s
  exact .of_runOn ((runOn_findByIdentifier identifier s).trans hr)

theorem cleanAt_create (a : Account) : (create a).CleanAt s := by
  obtain ⟨e, hr⟩ | ⟨_, -, hr, -⟩ := exists_runOn_create a s
  · exact .of_runOn hr
  · exact .of_ok hr

theorem cleanAt_updateCredentials (id : String) (changes : List CredentialChange) :
    (updateCredentials id changes).CleanAt s := by
  have hr := runOn_updateCredentials id changes s
  repeat' split at hr
  all_goals first | exact .of_runOn hr | exact .of_ok hr

theorem cleanAt_updateProfile (id : String) (changes : List ProfileChange) : (updateProfile id changes).CleanAt s := by
  have hr := runOn_updateProfile id changes s
  repeat' split at hr
  all_goals first | exact .of_runOn hr | exact .of_ok hr

theorem cleanAt_incrementAttempts (id : String) : (incrementAttempts id).CleanAt s := by
  have hr := runOn_incrementAttempts id s
  split at hr
  · exact .of_runOn hr
  · exact .of_ok hr

end RelationalStore

namespace StoreCall
variable (call : StoreCall)

theorem cleanAt_memory (m : MemoryStore) : call.perform.CleanAt m := by
  cases call with
  | create a => exact (m.cleanAt_create a).map _
  | findByIdentifier identifier =>
    exact (Action.CleanAt.of_after_eq (MemoryStore.after_findByIdentifier identifier m)).map _
  | findById id => exact .of_after_eq rfl
  | updateCredentials id changes => exact (m.cleanAt_updateCredentials id changes).map _
  | updateProfile id changes => exact (m.cleanAt_updateProfile id changes).map _
  | incrementAttempts id => exact (m.cleanAt_incrementAttempts id).map _

theorem cleanAt_relational (s : RelationalStore) : call.perform.CleanAt s := by
  cases call with
  | create a => exact (s.cleanAt_create a).map _
  | findByIdentifier identifier => exact (s.cleanAt_findByIdentifier identifier).map _
  | findById id => exact (s.cleanAt_findById id).map _
  | updateCredentials id changes => exact (s.cleanAt_updateCredentials id changes).map _
  | updateProfile id changes => exact (s.cleanAt_updateProfile id changes).map _
  | incrementAttempts id => exact (s.cleanAt_incrementAttempts id).map _

/-! ## Updates -/

/-- The account that an update is for. -/
def updated? : StoreCall → Option String
  | updateCredentials id _ | updateProfile id _ | incrementAttempts id => some id
  | _ => none

/-- What is wrong with an update that names fields which do not exist. -/
def misnamed? : StoreCall → Option ValueProblem
  | updateCredentials _ changes =>
    if unknownCredentialFields changes ≠ [] then some (.unknownCredentialFields (unknownCredentialFields changes))
    else none
  | updateProfile _ changes =>
    if unknownProfileFields changes ≠ [] then some (.unknownAccountFields (unknownProfileFields changes)) else none
  | _ => none

/-- The update changes no field. -/
def IsIdle : StoreCall → Prop
  | updateCredentials _ changes => changes = []
  | updateProfile _ changes => changes = []
  | _ => False

/-- The values of an update can be handed to the table: the backup codes are records, the counts have the size of a
column, and an address is a text. -/
def Transferable : StoreCall → Prop
  | updateCredentials _ changes => ∀ c ∈ changes, c.hasNoRecord = false ∧ c.isTooLarge = false
  | updateProfile _ changes => ∀ c ∈ changes, c.lacksEmail = false
  | _ => True

end StoreCall

theorem Action.outcome_map_of_runOn {σ α β : Type} (f : α → β) {x : Action σ α} {s t : σ} {r : Except Failure α}
    (h : x.runOn s = (r, t)) : (f <$> x).outcome s = r.map f := by
  unfold Action.outcome
  rw [Action.runOn_map, h]

section Updates
variable {call : StoreCall} {id : String}

theorem StoreCall.unknownFields_of_misnamed? {p : ValueProblem} (h : call.misnamed? = some p) :
    (∃ id changes, call = .updateCredentials id changes ∧ unknownCredentialFields changes ≠ [] ∧
        p = .unknownCredentialFields (unknownCredentialFields changes)) ∨
      ∃ id changes, call = .updateProfile id changes ∧ unknownProfileFields changes ≠ [] ∧
        p = .unknownAccountFields (unknownProfileFields changes) := by
  cases call with
  | updateCredentials id changes =>
    obtain ⟨hunknown, hp⟩ := Option.ite_none_right_eq_some.1 h
    exact .inl ⟨id, changes, rfl, hunknown, (Option.some.inj hp).symm⟩
  | updateProfile id changes =>
    obtain ⟨hunknown, hp⟩ := Option.ite_none_right_eq_some.1 h
    exact .inr ⟨id, changes, rfl, hunknown, (Option.some.inj hp).symm⟩
  | _ => cases h

theorem MemoryStore.outcome_of_misnamed {p : ValueProblem} (h : call.misnamed? = some p) (m : MemoryStore) :
    call.perform.outcome m = .error (.fault (.value p)) := by
  obtain ⟨id, changes, rfl, hunknown, rfl⟩ | ⟨id, changes, rfl, hunknown, rfl⟩ := StoreCall.unknownFields_of_misnamed? h
  · exact Action.outcome_map_of_runOn _ ((m.runOn_updateCredentials id changes).trans (if_pos hunknown))
  · exact Action.outcome_map_of_runOn _ ((m.runOn_updateProfile id changes).trans (if_pos hunknown))

theorem RelationalStore.outcome_of_misnamed {p : ValueProblem} (h : call.misnamed? = some p) (s : RelationalStore) :
    call.perform.outcome s = .error (.fault (.value p)) := by
  obtain ⟨id, changes, rfl, hunknown, rfl⟩ | ⟨id, changes, rfl, hunknown, rfl⟩ := StoreCall.unknownFields_of_misnamed? h
  · exact Action.outcome_map_of_runOn _ ((s.runOn_updateCredentials id changes).trans (if_pos hunknown))
  · exact Action.outcome_map_of_runOn _ ((s.runOn_updateProfile id changes).trans (if_pos hunknown))

/-- In memory, an account that does not exist is missed by every update. -/
theorem MemoryStore.outcome_of_missing {m : MemoryStore} (hid : call.updated? = some id)
    (hknown : call.misnamed? = none) (hm : m.accounts.get? id = none) :
    call.perform.outcome m = .error (.refused (.accountNotFound id)) := by
  cases call with
  | updateCredentials id' changes =>
    cases hid
    have hr := m.runOn_updateCredentials id changes
    rw [if_neg (by simpa [StoreCall.misnamed?] using hknown), hm] at hr
    exact Action.outcome_map_of_runOn _ hr
  | updateProfile id' changes =>
    cases hid
    have hr := m.runOn_updateProfile id changes
    rw [if_neg (by simpa [StoreCall.misnamed?] using hknown), hm] at hr
    exact Action.outcome_map_of_runOn _ hr
  | incrementAttempts id' =>
    cases hid
    have hr := m.runOn_incrementAttempts id
    rw [hm] at hr
    exact Action.outcome_map_of_runOn _ hr
  | _ => cases hid

theorem StoreCall.transferable_updateCredentials_iff {changes : List CredentialChange} :
    (updateCredentials id changes).Transferable ↔
      changes.any CredentialChange.hasNoRecord = false ∧ changes.any CredentialChange.isTooLarge = false := by
  simp only [Transferable, List.any_eq_false, Bool.not_eq_true, forall_and]

theorem StoreCall.transferable_updateProfile_iff {changes : List ProfileChange} :
    (updateProfile id changes).Transferable ↔ changes.any ProfileChange.lacksEmail = false := by
  simp only [Transferable, List.any_eq_false, Bool.not_eq_true]

namespace RelationalStore
variable {s : RelationalStore}

/-- What an update of an account that has no row shows. -/
theorem missing_updateCredentials {changes : List CredentialChange} (hknown : unknownCredentialFields changes = [])
    (hs : s.rowOf? id = none) :
    let call := StoreCall.updateCredentials id changes
    (call.perform.outcome s = .error (.refused (.accountNotFound id)) ↔ ¬call.IsIdle ∧ call.Transferable) ∧
      (call.perform.outcome s = .ok .done ↔ call.IsIdle) := by
  intro call
  have hout {r : Except Failure Unit} {t : RelationalStore} (h : (updateCredentials id changes).runOn s = (r, t)) :
      call.perform.outcome s = r.map fun _ => .done := Action.outcome_map_of_runOn _ h
  rw [StoreCall.transferable_updateCredentials_iff]
  change (_ ↔ ¬changes = [] ∧ _) ∧ (_ ↔ changes = [])
  by_cases hempty : changes = []
  · have hr : (updateCredentials id changes).runOn s = (.ok (), s) := by rw [hempty]; rfl
    rw [hout hr]
    simp [Except.map, hempty]
  have hr := s.runOn_updateCredentials id changes
  rw [if_neg (not_not.2 hknown), List.isEmpty_eq_false_iff.2 hempty, hs] at hr
  cases hf : changes.findSome? CredentialChange.recordFault? with
  | some f =>
    have hrecord : changes.any CredentialChange.hasNoRecord = true := by
      rw [← Bool.not_eq_false, ← findSome?_recordFault?_eq_none, hf]
      nofun
    rw [hf] at hr
    rw [hout hr]
    simp [Except.map, hempty, hrecord]
  | none =>
  have hrecord := findSome?_recordFault?_eq_none.1 hf
  rw [hf] at hr
  dsimp only at hr
  rw [if_neg Bool.false_ne_true] at hr
  by_cases hlarge : changes.any CredentialChange.isTooLarge
  · rw [if_pos hlarge] at hr
    rw [hout hr]
    simp [Except.map, hempty, hlarge]
  · rw [if_neg hlarge] at hr
    rw [hout hr]
    simp [Except.map, hempty, hrecord, hlarge]

theorem missing_updateProfile {changes : List ProfileChange} (hknown : unknownProfileFields changes = [])
    (hs : s.rowOf? id = none) :
    let call := StoreCall.updateProfile id changes
    (call.perform.outcome s = .error (.refused (.accountNotFound id)) ↔ ¬call.IsIdle ∧ call.Transferable) ∧
      (call.perform.outcome s = .ok .done ↔ call.IsIdle) := by
  intro call
  have hout {r : Except Failure Unit} {t : RelationalStore} (h : (updateProfile id changes).runOn s = (r, t)) :
      call.perform.outcome s = r.map fun _ => .done := Action.outcome_map_of_runOn _ h
  rw [StoreCall.transferable_updateProfile_iff]
  change (_ ↔ ¬changes = [] ∧ _) ∧ (_ ↔ changes = [])
  by_cases hempty : changes = []
  · have hr : (updateProfile id changes).runOn s = (.ok (), s) := by rw [hempty]; rfl
    rw [hout hr]
    simp [Except.map, hempty]
  have hr := s.runOn_updateProfile id changes
  rw [if_neg (not_not.2 hknown), List.isEmpty_eq_false_iff.2 hempty, if_neg Bool.false_ne_true, hs] at hr
  by_cases hlacks : changes.any ProfileChange.lacksEmail
  · rw [if_pos hlacks] at hr
    rw [hout hr]
    simp [Except.map, hempty, hlacks]
  · rw [if_neg hlacks] at hr
    rw [hout hr]
    simp [Except.map, hempty, hlacks]

/-- In the table, it is missed by the updates that get as far as its rows, and by no others. -/
theorem outcome_of_missing (hid : call.updated? = some id) (hknown : call.misnamed? = none)
    (hs : s.rowOf? id = none) :
    (call.perform.outcome s = .error (.refused (.accountNotFound id)) ↔ ¬call.IsIdle ∧ call.Transferable) ∧
      (call.perform.outcome s = .ok .done ↔ call.IsIdle) := by
  cases call with
  | updateCredentials id' changes =>
    cases hid
    exact missing_updateCredentials (by simpa [StoreCall.misnamed?] using hknown) hs
  | updateProfile id' changes =>
    cases hid
    exact missing_updateProfile (by simpa [StoreCall.misnamed?] using hknown) hs
  | incrementAttempts id' =>
    cases hid
    have hr := s.runOn_incrementAttempts id
    rw [hs] at hr
    have hout : (StoreCall.incrementAttempts id).perform.outcome s = .error (.refused (.accountNotFound id)) :=
      Action.outcome_map_of_runOn _ hr
    simp [hout, StoreCall.IsIdle, StoreCall.Transferable]
  | _ => cases hid

end RelationalStore

end Updates

/-- **Calls fail cleanly.** A call that fails leaves either store as it was. An update that names fields which do not
exist fails in both stores, with the names. An update of an account that does not exist is refused by the store in
memory, and by the table unless it changes no field or its values cannot be handed over: without a change it
succeeds. -/
theorem calls_fail_cleanly (call : StoreCall) (m : MemoryStore) (s : RelationalStore) :
    (∀ e, call.perform.outcome m = .error e → call.perform.after m = m) ∧
    (∀ e, call.perform.outcome s = .error e → call.perform.after s = s) ∧
    (∀ p, call.misnamed? = some p →
      call.perform.outcome m = .error (.fault (.value p)) ∧ call.perform.outcome s = .error (.fault (.value p))) ∧
    ∀ id, call.updated? = some id → call.misnamed? = none →
      (m.accounts.get? id = none → call.perform.outcome m = .error (.refused (.accountNotFound id))) ∧
      (s.rowOf? id = none →
        (call.perform.outcome s = .error (.refused (.accountNotFound id)) ↔ ¬call.IsIdle ∧ call.Transferable) ∧
        (call.perform.outcome s = .ok .done ↔ call.IsIdle)) :=
  ⟨call.cleanAt_memory m, call.cleanAt_relational s,
    fun _ hp => ⟨m.outcome_of_misnamed hp, s.outcome_of_misnamed hp⟩,
    fun _ hid hknown => ⟨MemoryStore.outcome_of_missing hid hknown, RelationalStore.outcome_of_missing hid hknown⟩⟩

/-- A count for an account that neither store has. -/
theorem calls_fail_cleanly_missing :
    (StoreCall.updateCredentials "missing" [.loginAttempts 1]).perform.outcome MemoryStore.empty =
        .error (.refused (.accountNotFound "missing")) ∧
      (StoreCall.updateCredentials "missing" [.loginAttempts 1]).perform.outcome RelationalStore.empty =
        .error (.refused (.accountNotFound "missing")) := by
  obtain ⟨-, -, -, h⟩ := calls_fail_cleanly (.updateCredentials "missing" [.loginAttempts 1]) .empty .empty
  obtain ⟨hmemory, htable⟩ := h "missing" rfl rfl
  exact ⟨hmemory rfl, (htable rfl).1.2 ⟨by simp [StoreCall.IsIdle], List.forall_mem_singleton.2 ⟨rfl, by decide⟩⟩⟩

/-- An update without changes of an account that does not exist succeeds in the table, and is refused in memory. -/
theorem idle_update_of_missing_account :
    (StoreCall.updateCredentials "missing" []).perform.outcome RelationalStore.empty = .ok .done ∧
      (StoreCall.updateCredentials "missing" []).perform.outcome MemoryStore.empty =
        .error (.refused (.accountNotFound "missing")) := ⟨rfl, rfl⟩

end AccountSecurity
