import AccountSecurity.Proofs.Store.Change
import AccountSecurity.Proofs.Store.Memory

/-!
# The index of addresses

* `MemoryStore.Exact` : the index leads from an address to the account that has it, and from no other text to any
  account; stored addresses are folded;
* `Exact.create`, `Exact.updateCredentials`, `Exact.updateProfile`, `Exact.incrementAttempts` : every call keeps it so,
  also one that fails;
* `Exact.id_unique`, `Exact.findByIdentifier_iff` : so that no two accounts have the same address, and the one that has
  it is found.
-/

namespace AccountSecurity.MemoryStore

/-- Accounts are kept under their identifiers, their addresses are folded, and the index leads from an address to the
identifier of the account that has it. -/
structure Exact (s : MemoryStore) : Prop where
  keyed : s.Keyed
  indexed : ∀ e id, s.emailIndex.get? e = some id ↔ ∃ a, s.accounts.get? id = some a ∧ a.email = e
  folded : ∀ id a, s.accounts.get? id = some a → ∃ text, a.email = Text.fold text

/-- Such an index leads to accounts only, and it leads from the address of every account. -/
theorem Exact.linked {s : MemoryStore} (h : s.Exact) : s.Linked where
  keyed := h.keyed
  led e id he := by
    obtain ⟨a, ha, -⟩ := (h.indexed e id).1 he
    rw [ha]
    rfl

theorem exact_empty : empty.Exact where
  keyed _ _ h := nomatch h
  indexed _ _ := ⟨fun h => (nomatch h), fun ⟨_, h, _⟩ => (nomatch h)⟩
  folded _ _ h := nomatch h

variable {s : MemoryStore} {id : String} {a b : Account}

/-- No two accounts have the same address. -/
theorem Exact.id_unique (h : s.Exact) {id' : String} (ha : s.accounts.get? id = some a)
    (hb : s.accounts.get? id' = some b) (he : a.email = b.email) : id = id' := by
  have hida := (h.indexed a.email id).2 ⟨a, ha, rfl⟩
  rw [(h.indexed a.email id').2 ⟨b, hb, he.symm⟩] at hida
  exact (Option.some.inj hida).symm

/-- The index has the address of every account. -/
theorem Exact.contains_email (h : s.Exact) (ha : s.accounts.get? id = some a) : s.emailIndex.contains a.email := by
  unfold Table.contains
  rw [(h.indexed a.email id).2 ⟨a, ha, rfl⟩]
  rfl

/-! ## Writing an account -/

theorem accounts_stored (k : String) : (s.stored id b).accounts.get? k = if id = k then some b else s.accounts.get? k :=
  Table.get?_put ..

/-- An account that keeps its address leaves the index as it is. -/
theorem Exact.stored (h : s.Exact) (ha : s.accounts.get? id = some a) (hid : b.id = a.id) (he : b.email = a.email) :
    (s.stored id b).Exact where
  keyed := h.keyed.put b (by rw [hid, h.keyed id a ha]; rfl)
  indexed e k := by
    refine (h.indexed e k).trans ?_
    rw [accounts_stored]
    by_cases hk : id = k
    · subst hk
      simp [ha, he]
    · simp [hk]
  folded k c hc := by
    rw [accounts_stored] at hc
    split at hc
    · cases hc
      rw [he]
      exact h.folded id a ha
    · exact h.folded k c hc

/-- A new account under a new address. -/
theorem Exact.added (h : s.Exact) (hid : s.accounts.get? a.id = none) (he : s.emailIndex.get? a.email = none)
    (hfold : ∃ text, a.email = Text.fold text) : (s.added a).Exact where
  keyed := h.keyed.put a rfl
  indexed e k := by
    show (s.emailIndex.put a.email a.id).get? e = some k ↔ ∃ b, (s.accounts.put a.id a).get? k = some b ∧ b.email = e
    rw [Table.get?_put, Table.get?_put]
    by_cases hk : a.id = k
    · subst hk
      by_cases hee : a.email = e
      · simp [hee]
      · simp [hee, h.indexed, hid]
    · by_cases hee : a.email = e
      · subst hee
        have hfree : ¬∃ b, s.accounts.get? k = some b ∧ b.email = a.email := fun hb => by
          rw [← h.indexed, he] at hb
          cases hb
        simp [hk]
        simpa using hfree
      · simp [hk, hee, h.indexed]
  folded k c hc := by
    change (s.accounts.put a.id a).get? k = some c at hc
    rw [Table.get?_put] at hc
    split at hc
    · cases hc
      exact hfold
    · exact h.folded k c hc

/-- An account that takes another address, which no other account has. -/
theorem Exact.moved (h : s.Exact) (ha : s.accounts.get? id = some a) (hid : b.id = a.id)
    (he : ∀ k, s.emailIndex.get? b.email = some k → k = id) (hfold : ∃ text, b.email = Text.fold text) :
    (s.moved id a.email b).Exact where
  keyed := h.keyed.put b (by rw [hid, h.keyed id a ha]; rfl)
  indexed e k := by
    show ((s.emailIndex.erase a.email).put b.email id).get? e = some k ↔
      ∃ c, (s.accounts.put id b).get? k = some c ∧ c.email = e
    rw [Table.get?_put, Table.get?_put, Table.get?_erase]
    have haddress := h.indexed e
    by_cases hk : id = k
    · subst hk
      rw [if_pos rfl]
      by_cases hb : b.email = e
      · simp [hb]
      · have hown : s.emailIndex.get? e = some id ↔ a.email = e := by simp [haddress, ha]
        by_cases hold : a.email = e
        · simp [hb, hold]
        · simp [hb, hold, hown]
    · rw [if_neg hk, ← haddress]
      by_cases hb : b.email = e
      · have hfree : s.emailIndex.get? e ≠ some k := fun hg => hk (he k (hb ▸ hg)).symm
        simp [hb, hk, hfree]
      · rw [if_neg hb]
        by_cases hold : a.email = e
        · have hown : s.emailIndex.get? e = some id := (haddress id).2 ⟨a, ha, hold⟩
          simp [hold, hown, hk]
        · rw [if_neg hold]
  folded k c hc := by
    change (s.accounts.put id b).get? k = some c at hc
    rw [Table.get?_put] at hc
    split at hc
    · cases hc
      exact hfold
    · exact h.folded k c hc

/-! ## Calls -/

/-- An address that is looked for is found with the account that has it. -/
theorem Exact.findByIdentifier_iff (h : s.Exact) (identifier : String) :
    (s.emailIndex.get? (Text.fold identifier)).bind s.accounts.get? = some a ↔
      s.accounts.get? a.id = some a ∧ a.email = Text.fold identifier := by
  rw [Option.bind_eq_some_iff]
  constructor
  · rintro ⟨id, hid, ha⟩
    obtain ⟨b, hb, he⟩ := (h.indexed _ id).1 hid
    rw [ha] at hb
    cases hb
    rw [h.keyed id a ha]
    exact ⟨ha, he⟩
  · rintro ⟨ha, he⟩
    exact ⟨a.id, (h.indexed _ _).2 ⟨a, ha, he⟩, ha⟩

theorem Exact.create (h : s.Exact) (a : Account) : ((create a).after s).Exact := by
  unfold Action.after
  rw [runOn_create]
  generalize hfold : Text.fold a.email = email
  split
  · exact h
  · next hnew =>
    simp only [Table.contains, not_or, Bool.not_eq_true, Option.isSome_eq_false_iff, Option.isNone_iff_eq_none] at hnew
    exact h.added hnew.2 hnew.1 ⟨a.email, hfold.symm⟩

theorem Exact.findByIdentifier (h : s.Exact) (identifier : String) : ((findByIdentifier identifier).after s).Exact := by
  rw [after_findByIdentifier]
  exact h

theorem Exact.updateCredentials (h : s.Exact) (id : String) (changes : List CredentialChange) :
    ((updateCredentials id changes).after s).Exact := by
  unfold Action.after
  rw [runOn_updateCredentials]
  split
  · exact h
  · split
    · next a ha => exact h.stored ha rfl rfl
    · exact h

/-- The address that an account leaves is always there to be dropped. -/
theorem Exact.runOn_updateProfile (h : s.Exact) (id : String) (changes : List ProfileChange) :
    (MemoryStore.updateProfile id changes).runOn s =
      if unknownProfileFields changes ≠ [] then
        (.error (.fault (.value (.unknownAccountFields (unknownProfileFields changes)))), s)
      else match s.accounts.get? id with
        | none => (.error (.refused (.accountNotFound id)), s)
        | some a =>
          if changes.any ProfileChange.lacksEmail then (.error (.fault .notText), s)
          else match newEmail? changes with
            | none => (.ok (), s.stored id (ProfileChange.applyAll a changes))
            | some email =>
              if (s.emailIndex.get? (Text.fold email)).any (· != id) then
                (.error (.refused (.accountExists false)), s)
              else (.ok (), s.moved id a.email ((ProfileChange.applyAll a changes).readdressed (Text.fold email))) := by
  rw [MemoryStore.runOn_updateProfile]
  cases ha : s.accounts.get? id with
  | none => rfl
  | some a =>
    dsimp only
    cases newEmail? changes with
    | none => rfl
    | some email =>
      dsimp only
      rw [if_pos (h.contains_email ha)]

theorem Exact.updateProfile (h : s.Exact) (id : String) (changes : List ProfileChange) :
    ((MemoryStore.updateProfile id changes).after s).Exact := by
  unfold Action.after
  rw [h.runOn_updateProfile]
  split
  · exact h
  · split
    · exact h
    · next a ha =>
      split
      · exact h
      · split
        · next hnone => exact h.stored ha (ProfileChange.id_applyAll changes a) (ProfileChange.email_applyAll hnone a)
        · next email hsome =>
          split
          · exact h
          · next hfree =>
            generalize hfold : Text.fold email = folded at hfree ⊢
            refine h.moved ha (ProfileChange.id_applyAll changes a) (fun k hk => ?_) ⟨email, hfold.symm⟩
            change s.emailIndex.get? folded = some k at hk
            by_contra hne
            exact hfree (by simpa [hk] using hne)

theorem Exact.incrementAttempts (h : s.Exact) (id : String) : ((incrementAttempts id).after s).Exact := by
  unfold Action.after
  rw [runOn_incrementAttempts]
  split
  · exact h
  · next a ha =>
    split
    · exact h
    · exact h.stored ha rfl rfl

end AccountSecurity.MemoryStore
