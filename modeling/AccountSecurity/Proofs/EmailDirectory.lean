import AccountSecurity.Proofs.StoreAgreement

/-!
# The directory of addresses

The store in memory keeps two tables, and every call writes both of them by hand. After calls of any kind, whether
they succeed or fail, the second is still the directory of the first.

* `MemoryCall`, `MemoryStore.afterCalls` : the calls of the store in memory, and what they lead to;
* `MemoryStore.Ordered` : the index is exact, and no identifier stands twice; every call keeps it so (`Ordered.after`);
* `ProfileChange.Moves` : the update moves an account to another address;
* `email_index_exact` : **the index is exact after any calls**, an address that an account leaves is free, and one that
  it takes is not.
-/

namespace AccountSecurity

/-- A call of the store in memory: one that every store has, or the one that drops all accounts. -/
inductive MemoryCall where
  | store (call : StoreCall)
  | clear

/-- The store after a call, whether the call succeeds or fails. -/
def MemoryCall.after (s : MemoryStore) : MemoryCall → MemoryStore
  | store call => call.perform.after s
  | clear => AccountStore.empty

namespace MemoryStore

/-- The store after calls, made of an empty store. -/
def afterCalls (calls : List MemoryCall) : MemoryStore := calls.foldl MemoryCall.after empty

variable {s : MemoryStore} {id : String} {a b : Account}

/-! ## What every call keeps -/

/-- The index is exact, and no identifier stands twice. -/
structure Ordered (s : MemoryStore) : Prop extends s.Exact where
  ids : s.accounts.keys.Nodup

theorem ordered_empty : empty.Ordered where
  toExact := exact_empty
  ids := List.nodup_nil

/-- The accounts are as they were, but for one that was written. -/
def WritesOne (s t : MemoryStore) : Prop := t.accounts = s.accounts ∨ ∃ id a, t.accounts = s.accounts.put id a

theorem WritesOne.map {α β : Type} (f : α → β) {x : Action MemoryStore α} (h : s.WritesOne (x.runOn s).2) :
    s.WritesOne ((f <$> x).after s) := by
  unfold Action.after
  rw [Action.snd_runOn_map]
  exact h

/-- Every call writes one account at most. -/
theorem writesOne_after (call : StoreCall) (s : MemoryStore) : s.WritesOne (call.perform.after s) := by
  cases call with
  | create a =>
    refine WritesOne.map _ (x := create a) ?_
    rw [runOn_create]
    split
    · exact .inl rfl
    · exact .inr ⟨_, _, rfl⟩
  | findByIdentifier identifier =>
    refine WritesOne.map _ (x := findByIdentifier identifier) ?_
    exact .inl (congrArg MemoryStore.accounts (after_findByIdentifier identifier s))
  | findById id => exact .inl rfl
  | updateCredentials id changes =>
    refine WritesOne.map _ (x := updateCredentials id changes) ?_
    rw [runOn_updateCredentials]
    repeat' split
    all_goals first | exact .inl rfl | exact .inr ⟨_, _, rfl⟩
  | updateProfile id changes =>
    refine WritesOne.map _ (x := updateProfile id changes) ?_
    rw [runOn_updateProfile]
    repeat' split
    all_goals first | exact .inl rfl | exact .inr ⟨_, _, rfl⟩
  | incrementAttempts id =>
    refine WritesOne.map _ (x := incrementAttempts id) ?_
    rw [runOn_incrementAttempts]
    repeat' split
    all_goals first | exact .inl rfl | exact .inr ⟨_, _, rfl⟩

theorem Ordered.after (h : s.Ordered) (call : MemoryCall) : (call.after s).Ordered := by
  cases call with
  | clear => exact ordered_empty
  | store call =>
    refine ⟨h.toExact.after call, ?_⟩
    obtain he | ⟨id, a, he⟩ := writesOne_after call s
    · exact he ▸ h.ids
    · exact he ▸ Table.nodup_keys_put h.ids id a

/-- After calls of any kind, the index is exact and no identifier stands twice. -/
theorem ordered_afterCalls (calls : List MemoryCall) : (afterCalls calls).Ordered := by
  -- along the calls, from any ordered store
  have hrun (s : MemoryStore) (h : s.Ordered) : (calls.foldl MemoryCall.after s).Ordered := by
    induction calls generalizing s with
    | nil => exact h
    | cons call rest ih => exact ih _ (h.after call)
  exact hrun empty ordered_empty

/-! ## The accounts of an ordered store -/

theorem Ordered.mem_values_iff (h : s.Ordered) : a ∈ s.accounts.values ↔ s.accounts.get? a.id = some a := by
  constructor
  · intro ha
    obtain ⟨id, hid⟩ := Table.exists_get?_of_mem_values h.ids ha
    rw [h.keyed id a hid]
    exact hid
  · exact Table.mem_values_of_get?

theorem Ordered.nodup_ids (h : s.Ordered) : (s.accounts.values.map (·.id)).Nodup :=
  Table.nodup_map_values h.ids _ fun id a id' a' ha ha' he => by rw [← h.keyed id a ha, he, h.keyed id' a' ha']

theorem Ordered.nodup_emails (h : s.Ordered) : (s.accounts.values.map (·.email)).Nodup :=
  Table.nodup_map_values h.ids _ fun _ _ _ _ ha ha' he => h.toExact.id_unique ha ha' he

theorem Ordered.fold_email (h : s.Ordered) (ha : a ∈ s.accounts.values) : Text.fold a.email = a.email := by
  obtain ⟨text, he⟩ := h.folded a.id a (h.mem_values_iff.1 ha)
  rw [he, Text.fold_fold]

/-! ## Addresses that are free, and addresses that are taken -/

variable {email : String}

theorem outcome_create_of_free (hfree : s.emailIndex.get? (Text.fold b.email) = none)
    (hid : s.accounts.get? b.id = none) : (create b).outcome s = .ok () := by
  unfold Action.outcome
  rw [runOn_create, if_neg (by simp [Table.contains, hfree, hid])]

theorem outcome_create_of_taken (htaken : s.emailIndex.get? (Text.fold b.email) = some id) :
    (create b).outcome s = .error (.refused (.accountExists false)) := by
  unfold Action.outcome
  rw [runOn_create, if_pos (by simp [Table.contains, htaken])]

end MemoryStore

/-- The update sets an address, and nothing in it can fail by itself: all fields exist, and the address has a value. -/
structure ProfileChange.Moves (changes : List ProfileChange) (email : String) : Prop where
  known : unknownProfileFields changes = []
  valued : changes.any ProfileChange.lacksEmail = false
  email : newEmail? changes = some email

namespace MemoryStore
variable {s : MemoryStore} {id email : String} {a b : Account} {changes : List ProfileChange}
open ProfileChange (Moves)

theorem Exact.runOn_updateProfile_of_moves (h : s.Exact) (hm : Moves changes email) (ha : s.accounts.get? id = some a) :
    (MemoryStore.updateProfile id changes).runOn s =
      if (s.emailIndex.get? (Text.fold email)).any (· != id) then (.error (.refused (.accountExists false)), s)
      else (.ok (), s.moved id a.email ((ProfileChange.applyAll a changes).readdressed (Text.fold email))) := by
  rw [h.runOn_updateProfile, if_neg (not_not.2 hm.known), ha]
  dsimp only
  rw [hm.valued, hm.email]
  rfl

theorem Exact.outcome_updateProfile_of_free (h : s.Exact) (hm : Moves changes email) (ha : (s.accounts.get? id).isSome)
    (hfree : s.emailIndex.get? (Text.fold email) = none) : (MemoryStore.updateProfile id changes).outcome s = .ok () := by
  obtain ⟨a, ha⟩ := Option.isSome_iff_exists.1 ha
  unfold Action.outcome
  rw [h.runOn_updateProfile_of_moves hm ha, hfree]
  rfl

theorem Exact.outcome_updateProfile_of_taken (h : s.Exact) (hm : Moves changes email) (ha : (s.accounts.get? id).isSome) {id' : String}
    (htaken : s.emailIndex.get? (Text.fold email) = some id') (hne : id' ≠ id) :
    (MemoryStore.updateProfile id changes).outcome s = .error (.refused (.accountExists false)) := by
  obtain ⟨a, ha⟩ := Option.isSome_iff_exists.1 ha
  unfold Action.outcome
  rw [h.runOn_updateProfile_of_moves hm ha, htaken, if_pos (by simpa using hne)]

/-- After a move, the index leads from the new address to the account that moved, and from the old one nowhere. -/
theorem Exact.after_updateProfile_of_moves (h : s.Exact) (hm : Moves changes email) (ha : s.accounts.get? id = some a)
    (hok : (MemoryStore.updateProfile id changes).outcome s = .ok ()) :
    let t := (MemoryStore.updateProfile id changes).after s
    (∃ b, t.accounts.get? id = some b ∧ b.email = Text.fold email) ∧
      t.emailIndex.get? (Text.fold email) = some id ∧
      (a.email ≠ Text.fold email → t.emailIndex.get? a.email = none) := by
  intro t
  have hr := h.runOn_updateProfile_of_moves hm ha
  split at hr
  · unfold Action.outcome at hok
    rw [hr] at hok
    cases hok
  · have ht : t = s.moved id a.email ((ProfileChange.applyAll a changes).readdressed (Text.fold email)) :=
      congrArg Prod.snd hr
    rw [ht]
    generalize hb : (ProfileChange.applyAll a changes).readdressed (Text.fold email) = b
    have he : b.email = Text.fold email := hb ▸ rfl
    unfold MemoryStore.moved
    dsimp only
    rw [he]
    refine ⟨⟨b, by rw [Table.get?_put, if_pos rfl], he⟩, by rw [Table.get?_put, if_pos rfl], fun hne => ?_⟩
    rw [Table.get?_put, if_neg (Ne.symm hne), Table.get?_erase, if_pos rfl]

/-- **The index of addresses is exact.** After calls of any kind, it leads from an address to the account that has it
and from no other text to any account; addresses are folded, and no two accounts share one, nor an identifier. Every
entry has its account and every account its entry, so that no look-up of either misses. An identifier is looked up with
the account that has it as its address. Once an account has moved to another address, no other account can be made with
that one or moved to it, and the address that it left is free for both. -/
theorem email_index_exact (calls : List MemoryCall) :
    let s := afterCalls calls
    (∀ e id, s.emailIndex.get? e = some id ↔ ∃ a ∈ s.accounts.values, a.id = id ∧ a.email = e) ∧
    (∀ a ∈ s.accounts.values, Text.fold a.email = a.email) ∧
    (s.accounts.values.map (·.id)).Nodup ∧ (s.accounts.values.map (·.email)).Nodup ∧
    (∀ e id, s.emailIndex.get? e = some id → s.accounts.contains id) ∧
    (∀ a ∈ s.accounts.values, s.emailIndex.contains a.email) ∧
    (∀ identifier, ∃ found, (findByIdentifier identifier).runOn s = (.ok found, s) ∧
      ∀ a, found = some a ↔ a ∈ s.accounts.values ∧ a.email = Text.fold identifier) ∧
    ∀ id a changes email, s.accounts.get? id = some a → Moves changes email →
      (updateProfile id changes).outcome s = .ok () →
      let t := (updateProfile id changes).after s
      (∃ b, t.accounts.get? id = some b ∧ b.email = Text.fold email) ∧
      (∀ b : Account, Text.fold b.email = Text.fold email →
        (create b).outcome t = .error (.refused (.accountExists false))) ∧
      (∀ id' changes' email', id' ≠ id → (t.accounts.get? id').isSome → Moves changes' email' →
        Text.fold email' = Text.fold email →
        (updateProfile id' changes').outcome t = .error (.refused (.accountExists false))) ∧
      (a.email ≠ Text.fold email →
        (∀ b : Account, Text.fold b.email = a.email → t.accounts.get? b.id = none → (create b).outcome t = .ok ()) ∧
        ∀ id' changes' email', (t.accounts.get? id').isSome → Moves changes' email' → Text.fold email' = a.email →
          (updateProfile id' changes').outcome t = .ok ()) := by
  intro s
  have h : s.Ordered := ordered_afterCalls calls
  have hindex (e id : String) : s.emailIndex.get? e = some id ↔ ∃ a ∈ s.accounts.values, a.id = id ∧ a.email = e := by
    rw [h.indexed]
    constructor
    · rintro ⟨a, ha, he⟩
      exact ⟨a, Table.mem_values_of_get? ha, h.keyed id a ha, he⟩
    · rintro ⟨a, ha, rfl, he⟩
      exact ⟨a, h.mem_values_iff.1 ha, he⟩
  refine ⟨hindex, fun a => h.fold_email, h.nodup_ids, h.nodup_emails, fun e id he => ?_, fun a ha => ?_,
    fun identifier => ⟨_, h.toExact.linked.runOn_findByIdentifier identifier, fun a => ?_⟩, fun id a changes email ha hm hok => ?_⟩
  · obtain ⟨a, hget, -⟩ := (h.indexed e id).1 he
    exact Option.isSome_iff_exists.2 ⟨a, hget⟩
  · exact Option.isSome_iff_exists.2 ⟨a.id, (hindex a.email a.id).2 ⟨a, ha, rfl, rfl⟩⟩
  · rw [h.toExact.findByIdentifier_iff, h.mem_values_iff]
  · intro t
    have ht : t.Exact := h.toExact.updateProfile id changes
    obtain ⟨hmoved, hnew, hold⟩ := h.toExact.after_updateProfile_of_moves hm ha hok
    refine ⟨hmoved, fun b he => ?_, fun id' changes' email' hne hid' hm' he => ?_, fun hne => ⟨fun b he hid => ?_,
      fun id' changes' email' hid' hm' he => ?_⟩⟩
    · exact outcome_create_of_taken ((congrArg t.emailIndex.get? he).trans hnew)
    · exact ht.outcome_updateProfile_of_taken hm' hid' ((congrArg t.emailIndex.get? he).trans hnew) hne.symm
    · exact outcome_create_of_free ((congrArg t.emailIndex.get? he).trans (hold hne)) hid
    · exact ht.outcome_updateProfile_of_free hm' hid' ((congrArg t.emailIndex.get? he).trans (hold hne))

/-- Two accounts, under the addresses `a` and `b`. -/
def twoAccounts : List MemoryCall :=
  [.store (.create { id := "1", email := "A", displayName := none }),
    .store (.create { id := "2", email := "b", displayName := none })]

/-- The first moves to `c`: the second cannot follow it, and a third is made under `a`. -/
theorem email_index_exact_moved :
    let t := (updateProfile "1" [.email (some " C")]).after (afterCalls twoAccounts)
    (updateProfile "2" [.email (some "c")]).outcome t = .error (.refused (.accountExists false)) ∧
      (create { id := "3", email := "A ", displayName := none }).outcome t = .ok () := by
  intro t
  obtain ⟨-, -, -, -, -, -, -, hmove⟩ := email_index_exact twoAccounts
  obtain ⟨-, -, htaken, hfree⟩ := hmove "1" { id := "1", email := "a", displayName := none } [.email (some " C")] " C"
    (by decide +kernel) ⟨rfl, rfl, rfl⟩ (by decide +kernel)
  exact ⟨htaken "2" [.email (some "c")] "c" (by decide) (by decide +kernel) ⟨rfl, rfl, rfl⟩ (by decide +kernel),
    (hfree (by decide +kernel)).1 { id := "3", email := "A ", displayName := none } (by decide +kernel)
      (by decide +kernel)⟩

end MemoryStore

end AccountSecurity
