import AccountSecurity.Store.Relational

/-!
# What the calls of the store in a table do

* `RelationalStore.runOn_create` and its like : what each call gives, and the table after it;
* `RelationalStore.exists_runOn_create` : a new account is refused, or gets a row under an identifier of its own;
* `rowOf?_of_mem`, `rowOf?_replaced`, `rowOf?_appended` : the row under an identifier, of which there is only one.
-/

namespace AccountSecurity.RelationalStore

/-! ## Rows -/

/-- The table with the row under an identifier changed. -/
def replaced (s : RelationalStore) (id : String) (f : Row → Row) : RelationalStore :=
  ⟨s.rows.map fun r => if r.id = id then f r else r⟩

/-- The table with another row at its end. -/
def appended (s : RelationalStore) (r : Row) : RelationalStore := ⟨s.rows ++ [r]⟩

/-- No two rows have the same identifier. -/
def IdsUnique (s : RelationalStore) : Prop := (s.rows.map Row.id).Nodup

variable {s : RelationalStore} {id : String} {r : Row} {f : Row → Row}

theorem mem_of_rowOf? (h : s.rowOf? id = some r) : r ∈ s.rows ∧ r.id = id :=
  ⟨List.mem_of_find?_eq_some h, by simpa using List.find?_some h⟩

theorem rowOf?_of_mem (hs : s.IdsUnique) (hr : r ∈ s.rows) : s.rowOf? r.id = some r := by
  unfold IdsUnique at hs
  unfold rowOf?
  generalize s.rows = rows at hs hr
  induction rows with
  | nil => cases hr
  | cons r₀ rest ih =>
    obtain ⟨hnew, hrest⟩ := List.nodup_cons.1 hs
    obtain rfl | hr := List.mem_cons.1 hr
    · simp
    · have hne : r₀.id ≠ r.id := fun he => hnew (he ▸ List.mem_map_of_mem hr)
      rw [List.find?_cons_of_neg (by simpa using hne)]
      exact ih hrest hr

theorem IdsUnique.replaced (hs : s.IdsUnique) (hf : ∀ r, (f r).id = r.id) (id : String) :
    (s.replaced id f).IdsUnique := by
  unfold IdsUnique RelationalStore.replaced
  have hids : (s.rows.map fun r => if r.id = id then f r else r).map Row.id = s.rows.map Row.id := by
    rw [List.map_map]
    refine List.map_congr_left fun r _ => ?_
    simp only [Function.comp_apply]
    split
    · exact hf r
    · rfl
  rw [hids]
  exact hs

theorem IdsUnique.appended (hs : s.IdsUnique) (hr : ∀ r' ∈ s.rows, r'.id ≠ r.id) : (s.appended r).IdsUnique := by
  unfold IdsUnique RelationalStore.appended
  rw [List.map_append, List.nodup_append]
  refine ⟨hs, List.nodup_cons.2 ⟨List.not_mem_nil, List.nodup_nil⟩, ?_⟩
  intro k hk k' hk'
  obtain ⟨r', hr', rfl⟩ := List.mem_map.1 hk
  rw [List.map_singleton, List.mem_singleton] at hk'
  rw [hk']
  exact hr r' hr'

theorem rowOf?_replaced (hf : ∀ r, (f r).id = r.id) (k : String) :
    (s.replaced id f).rowOf? k = if id = k then (s.rowOf? k).map f else s.rowOf? k := by
  have hfind : (s.replaced id f).rowOf? k = (s.rowOf? k).map fun r => if r.id = id then f r else r := by
    unfold rowOf? RelationalStore.replaced
    rw [List.find?_map]
    congr 2
    funext r
    simp only [Function.comp_apply]
    split
    · rw [hf]
    · rfl
  rw [hfind]
  cases hr : s.rowOf? k with
  | none => simp
  | some r =>
    have hk := (mem_of_rowOf? hr).2
    subst hk
    by_cases hid : r.id = id
    · simp [hid]
    · simp [hid, Ne.symm hid]

theorem rowOf?_appended (r : Row) (k : String) :
    (s.appended r).rowOf? k = (s.rowOf? k).or (if r.id = k then some r else none) := by
  unfold rowOf? RelationalStore.appended
  rw [List.find?_append, List.find?_singleton]
  simp

/-! ## Calls -/

theorem runOn_read {found : Option Row} {a? : Option Account} (h : found.map Row.account = a?.map .ok)
    (s : RelationalStore) : (read found).runOn s = (.ok a?, s) := by
  cases found with
  | none =>
    cases a? with
    | none => rfl
    | some a => cases h
  | some r =>
    cases a? with
    | none => cases h
    | some a =>
      have hr : r.account = .ok a := Option.some.inj h
      unfold read
      dsimp only
      rw [hr]
      rfl

theorem runOn_findById (id : String) (s : RelationalStore) :
    (findById id).runOn s = (read (s.rowOf? id)).runOn s := by
  unfold findById
  rw [Action.runOn_bind_of_ok (Action.runOn_get s)]

theorem runOn_findByIdentifier (identifier : String) (s : RelationalStore) :
    (findByIdentifier identifier).runOn s =
      (read (s.rows.find? fun r => Text.asciiLower r.email == Text.fold identifier)).runOn s := by
  unfold findByIdentifier
  dsimp only
  rw [Action.runOn_bind_of_ok (Action.runOn_get s)]

theorem runOn_create {a : Account} {name : String} (hfits : fitsColumn a.credentials.loginAttempts)
    (hname : a.displayName = some name) (hhash : a.credentials.gaps.passwordHash = false) (s : RelationalStore) :
    (create a).runOn s =
      if s.rows.any fun r => r.id == a.id || r.email == Text.fold a.email then
        (.error (.refused (.accountExists true)), s)
      else (.ok (), s.appended (Row.ofAccount a name)) := by
  unfold create
  rw [if_neg (by simp [hfits]), hname, hhash]
  dsimp only
  rw [Action.runOn_bind_of_ok (Action.runOn_get s)]
  have hany : (s.rows.any fun r => r.id == (Row.ofAccount a name).id || r.email == (Row.ofAccount a name).email) =
      s.rows.any fun r => r.id == a.id || r.email == Text.fold a.email := rfl
  rw [hany]
  split <;> rfl

/-- Adding an account fails and leaves the table as it is, or adds its row. Then it has a name, and no row had its
identifier or its address. -/
theorem exists_runOn_create (a : Account) (s : RelationalStore) :
    (∃ e, (create a).runOn s = (.error e, s)) ∨
      ∃ name, a.displayName = some name ∧ (create a).runOn s = (.ok (), s.appended (Row.ofAccount a name)) ∧
        ∀ r ∈ s.rows, r.id ≠ a.id ∧ r.email ≠ Text.fold a.email := by
  by_cases hfits : fitsColumn a.credentials.loginAttempts
  · obtain hname | ⟨name, hname⟩ := Option.eq_none_or_eq_some a.displayName
    · refine .inl ⟨.refused (.accountExists true), ?_⟩
      unfold create
      rw [if_neg (by simp [hfits]), hname]
      rfl
    · cases hhash : a.credentials.gaps.passwordHash with
      | true =>
        refine .inl ⟨.refused (.accountExists true), ?_⟩
        unfold create
        rw [if_neg (by simp [hfits]), hname, hhash]
        rfl
      | false =>
        have hr := runOn_create hfits hname hhash s
        split at hr
        · exact .inl ⟨_, hr⟩
        · next hfree =>
          refine .inr ⟨name, hname, hr, fun r hmem => not_or.1 fun hsame => hfree ?_⟩
          exact List.any_eq_true.2 ⟨r, hmem, by simpa using hsame⟩
  · refine .inl ⟨.fault .numberRange, ?_⟩
    unfold create
    rw [if_pos (by simpa using hfits)]
    rfl

/-- Where every backup code is a record, nothing is wrong with the records. -/
theorem findSome?_recordFault?_eq_none {changes : List CredentialChange} :
    changes.findSome? CredentialChange.recordFault? = none ↔ changes.any CredentialChange.hasNoRecord = false := by
  simp [List.findSome?_eq_none_iff, CredentialChange.hasNoRecord]

theorem runOn_updateCredentials (id : String) (changes : List CredentialChange) (s : RelationalStore) :
    (updateCredentials id changes).runOn s =
      if unknownCredentialFields changes ≠ [] then
        (.error (.fault (.value (.unknownCredentialFields (unknownCredentialFields changes)))), s)
      else match changes.findSome? CredentialChange.recordFault? with
        | some f => (.error (.fault f), s)
        | none =>
          if changes.isEmpty then (.ok (), s)
          else if changes.any CredentialChange.isTooLarge then (.error (.fault .numberRange), s)
          else if (s.rowOf? id).isNone then (.error (.refused (.accountNotFound id)), s)
          else if changes.any CredentialChange.isAbsent then (.error (.fault .requiredColumn), s)
          else (.ok (), s.replaced id fun r => changes.foldl Row.applyCredential r) := by
  unfold updateCredentials
  dsimp only
  split
  · rfl
  cases changes.findSome? CredentialChange.recordFault? with
  | some f => rfl
  | none =>
  dsimp only
  split
  · rfl
  split
  · rfl
  rw [Action.runOn_bind_of_ok (Action.runOn_get s)]
  split
  · rfl
  split <;> rfl

theorem runOn_updateProfile (id : String) (changes : List ProfileChange) (s : RelationalStore) :
    (updateProfile id changes).runOn s =
      if unknownProfileFields changes ≠ [] then
        (.error (.fault (.value (.unknownAccountFields (unknownProfileFields changes)))), s)
      else if changes.isEmpty then (.ok (), s)
      else if changes.any ProfileChange.lacksEmail then (.error (.fault .notText), s)
      else if (s.rowOf? id).isNone then (.error (.refused (.accountNotFound id)), s)
      else if changes.any ProfileChange.isAbsent || s.emailTaken id changes then
        (.error (.refused (.accountExists true)), s)
      else (.ok (), s.replaced id fun r => changes.foldl Row.applyProfile r) := by
  unfold updateProfile
  dsimp only
  split
  · rfl
  split
  · rfl
  split
  · rfl
  rw [Action.runOn_bind_of_ok (Action.runOn_get s)]
  split
  · rfl
  split <;> rfl

theorem runOn_incrementAttempts (id : String) (s : RelationalStore) :
    (incrementAttempts id).runOn s =
      match s.rowOf? id with
      | none => (.error (.refused (.accountNotFound id)), s)
      | some r =>
        let attempts := min (r.loginAttempts + 1) columnBound
        (.ok attempts, s.replaced id fun r => { r with loginAttempts := attempts }) := by
  unfold incrementAttempts
  rw [Action.runOn_bind_of_ok (Action.runOn_get s)]
  cases s.rowOf? id <;> rfl

end AccountSecurity.RelationalStore
