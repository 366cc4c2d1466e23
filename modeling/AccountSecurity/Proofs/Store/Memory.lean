import AccountSecurity.Proofs.Store.Lawful
import AccountSecurity.Store.Memory

/-!
# The store in memory is lawful

* `MemoryStore.runOn_create` and its like : what each call gives, and the store after it;
* `MemoryStore.Keyed`, `MemoryStore.Linked` : every account is kept under its own identifier, and the index leads to
  accounts that are there;
* `Table.get?_put_eq_update` : writing one account of a table leaves the others.
-/

namespace AccountSecurity

theorem Table.get?_put_eq_update {α : Type} (t : Table α) (key : String) (v : α) :
    (t.put key v).get? = Function.update t.get? key (some v) := by
  funext k
  rw [Table.get?_put]
  by_cases h : key = k
  · subst h
    rw [if_pos rfl, Function.update_self]
  · rw [if_neg h, Function.update_of_ne (Ne.symm h)]

namespace CredentialChange

theorem unknownName?_of_storable {keeps : BackupCode → Prop} {c : CredentialChange} (h : c.Storable keeps) :
    c.unknownName? = none := by
  cases c <;> first | rfl | exact h.elim

end CredentialChange

theorem unknownCredentialFields_of_storable {keeps : BackupCode → Prop} {changes : List CredentialChange}
    (h : Storable keeps changes) :
    unknownCredentialFields changes = [] :=
  List.filterMap_eq_nil_iff.2 fun c hc => CredentialChange.unknownName?_of_storable (h.2 c hc)

namespace MemoryStore

/-- Every account is kept under its own identifier. -/
def Keyed (s : MemoryStore) : Prop := ∀ id a, s.accounts.get? id = some a → a.id = id

/-- Writing an account under its identifier keeps the accounts under theirs. -/
theorem Keyed.put {s t : MemoryStore} (h : s.Keyed) (a : Account) (ht : t.accounts = s.accounts.put a.id a) :
    t.Keyed := by
  intro id b hb
  rw [ht, Table.get?_put] at hb
  split at hb
  · next he => cases hb; exact he
  · exact h id b hb

/-- Besides, the index leads to accounts that are there. -/
structure Linked (s : MemoryStore) : Prop where
  keyed : s.Keyed
  led : ∀ e id, s.emailIndex.get? e = some id → (s.accounts.get? id).isSome

/-- Writing an account keeps every index that leads to no other new one. -/
theorem Linked.put {s t : MemoryStore} (h : s.Linked) (a : Account) (ht : t.accounts = s.accounts.put a.id a)
    (hi : ∀ e id, t.emailIndex.get? e = some id → s.emailIndex.get? e = some id ∨ id = a.id) : t.Linked where
  keyed := h.keyed.put a ht
  led e id he := by
    rw [ht, Table.get?_put]
    split
    · rfl
    · next hne =>
      obtain hs | rfl := hi e id he
      · exact h.led e id hs
      · exact absurd rfl hne

theorem runOn_require {s : MemoryStore} {id : String} {a : Account} (h : s.accounts.get? id = some a) :
    (require id).runOn s = (.ok a, s) := by
  unfold require
  rw [Action.runOn_bind_of_ok (Action.runOn_get s), h]
  rfl

theorem runOn_require_missing {s : MemoryStore} {id : String} (h : s.accounts.get? id = none) :
    (require id).runOn s = (.error (.refused (.accountNotFound id)), s) := by
  unfold require
  rw [Action.runOn_bind_of_ok (Action.runOn_get s), h]
  rfl

/-! ## Calls -/

/-- The store with another account under an identifier. -/
def stored (s : MemoryStore) (id : String) (a : Account) : MemoryStore :=
  { s with accounts := s.accounts.put id a }

/-- The store with a new account, under its identifier and its address. -/
def added (s : MemoryStore) (a : Account) : MemoryStore :=
  ⟨s.accounts.put a.id a, s.emailIndex.put a.email a.id⟩

/-- The store with another account under an identifier, which leaves an address for its own. -/
def moved (s : MemoryStore) (id email : String) (a : Account) : MemoryStore :=
  ⟨s.accounts.put id a, (s.emailIndex.erase email).put a.email id⟩

theorem runOn_findByIdentifier (identifier : String) (s : MemoryStore) :
    (findByIdentifier identifier).runOn s =
      match s.emailIndex.get? (Text.fold identifier) with
      | none => (.ok none, s)
      | some id =>
        match s.accounts.get? id with
        | some a => (.ok (some a), s)
        | none => (.error (.fault .missingField), s) := by
  unfold findByIdentifier
  rw [Action.runOn_bind_of_ok (Action.runOn_get s)]
  cases s.emailIndex.get? (Text.fold identifier) with
  | none => rfl
  | some id =>
    dsimp only
    cases s.accounts.get? id <;> rfl

theorem after_findByIdentifier (identifier : String) (s : MemoryStore) : (findByIdentifier identifier).after s = s := by
  unfold Action.after
  rw [runOn_findByIdentifier]
  split
  · rfl
  · split <;> rfl

/-- What is found is the account that the index leads to. -/
theorem of_findByIdentifier {identifier : String} {s : MemoryStore} {a : Account}
    (h : (findByIdentifier identifier).outcome s = .ok (some a)) :
    ∃ id, s.emailIndex.get? (Text.fold identifier) = some id ∧ s.accounts.get? id = some a := by
  unfold Action.outcome at h
  rw [runOn_findByIdentifier] at h
  split at h
  · cases h
  · next id hid =>
    split at h
    · next b hb =>
      cases h
      exact ⟨id, hid, hb⟩
    · cases h

/-- An index that leads to accounts finds the one under an address. -/
theorem Linked.runOn_findByIdentifier {s : MemoryStore} (h : s.Linked) (identifier : String) :
    (findByIdentifier identifier).runOn s =
      (.ok ((s.emailIndex.get? (Text.fold identifier)).bind s.accounts.get?), s) := by
  rw [MemoryStore.runOn_findByIdentifier]
  split
  · next hnone => rw [hnone, Option.bind_none]
  · next id hid =>
    obtain ⟨a, ha⟩ := Option.isSome_iff_exists.1 (h.led _ id hid)
    rw [hid, Option.bind_some, ha]

theorem runOn_create (a : Account) (s : MemoryStore) :
    (create a).runOn s =
      if s.emailIndex.contains (Text.fold a.email) ∨ s.accounts.contains a.id then
        (.error (.refused (.accountExists false)), s)
      else (.ok (), s.added (a.readdressed (Text.fold a.email))) := by
  unfold create
  dsimp only
  rw [Action.runOn_bind_of_ok (Action.runOn_get s)]
  generalize Text.fold a.email = email
  split <;> rfl

theorem runOn_updateCredentials (id : String) (changes : List CredentialChange) (s : MemoryStore) :
    (updateCredentials id changes).runOn s =
      if unknownCredentialFields changes ≠ [] then
        (.error (.fault (.value (.unknownCredentialFields (unknownCredentialFields changes)))), s)
      else match s.accounts.get? id with
        | some a => (.ok (), s.stored id (a.changed changes))
        | none => (.error (.refused (.accountNotFound id)), s) := by
  unfold updateCredentials
  dsimp only
  split
  · rfl
  · cases ha : s.accounts.get? id with
    | some a =>
      rw [Action.runOn_bind_of_ok (runOn_require ha)]
      rfl
    | none => rw [Action.runOn_bind_of_error (runOn_require_missing ha)]

theorem runOn_moveEmail (id : String) (a : Account) (email : String) (s : MemoryStore) :
    (moveEmail id a email).runOn s =
      if (s.emailIndex.get? email).any (· != id) then (.error (.refused (.accountExists false)), s)
      else if s.emailIndex.contains a.email then
        (.ok (), { s with emailIndex := (s.emailIndex.erase a.email).put email id })
      else (.error (.fault .missingField), s) := by
  unfold moveEmail
  rw [Action.runOn_bind_of_ok (Action.runOn_get s)]
  split
  · rfl
  unfold unindexEmail
  rw [Action.runOn_bind, Action.runOn_bind_of_ok (Action.runOn_get s)]
  by_cases hold : s.emailIndex.contains a.email
  · rw [if_pos hold, if_pos hold]
    rfl
  · rw [if_neg hold, if_neg hold]
    rfl

theorem runOn_updateProfile (id : String) (changes : List ProfileChange) (s : MemoryStore) :
    (updateProfile id changes).runOn s =
      if unknownProfileFields changes ≠ [] then
        (.error (.fault (.value (.unknownAccountFields (unknownProfileFields changes)))), s)
      else match s.accounts.get? id with
        | none => (.error (.refused (.accountNotFound id)), s)
        | some a =>
          if changes.any ProfileChange.lacksEmail then (.error (.fault .notText), s)
          else match newEmail? changes with
            | none => (.ok (), s.stored id (ProfileChange.applyAll a changes))
            | some email =>
              if (s.emailIndex.get? (Text.fold email)).any (· != id) then
                (.error (.refused (.accountExists false)), s)
              else if s.emailIndex.contains a.email then
                (.ok (), s.moved id a.email ((ProfileChange.applyAll a changes).readdressed (Text.fold email)))
              else (.error (.fault .missingField), s) := by
  unfold updateProfile
  dsimp only
  split
  · rfl
  · cases ha : s.accounts.get? id with
    | none => rw [Action.runOn_bind_of_error (runOn_require_missing ha)]
    | some a =>
      rw [Action.runOn_bind_of_ok (runOn_require ha)]
      dsimp only
      split
      · rfl
      · cases newEmail? changes with
        | none => rfl
        | some email =>
          dsimp only
          generalize Text.fold email = email
          rw [Action.runOn_bind, runOn_moveEmail]
          by_cases htaken : (s.emailIndex.get? email).any (· != id)
          · rw [if_pos htaken, if_pos htaken]
          rw [if_neg htaken, if_neg htaken]
          by_cases hold : s.emailIndex.contains a.email
          · rw [if_pos hold, if_pos hold]
            rfl
          · rw [if_neg hold, if_neg hold]

theorem runOn_incrementAttempts (id : String) (s : MemoryStore) :
    (incrementAttempts id).runOn s =
      match s.accounts.get? id with
      | none => (.error (.refused (.accountNotFound id)), s)
      | some a =>
        if a.credentials.gaps.loginAttempts then (.error (.fault .wrongKind), s)
        else (.ok (a.credentials.loginAttempts + 1), s.stored id (a.counted (a.credentials.loginAttempts + 1))) := by
  unfold incrementAttempts
  cases ha : s.accounts.get? id with
  | none => rw [Action.runOn_bind_of_error (runOn_require_missing ha)]
  | some a =>
    rw [Action.runOn_bind_of_ok (runOn_require ha)]
    dsimp only
    split <;> rfl

/-! ## The laws -/

instance : LawfulStore MemoryStore where
  Valid := Linked
  lookup s := s.accounts.get?
  Counts _ := True
  countKept n := n
  countKept_of_counts _ := rfl
  Keeps _ := True
  keeps_ofText _ _ _ := trivial
  keeps_spentAt _ _ := trivial
  valid_empty := ⟨fun _ _ h => (nomatch h), fun _ _ h => (nomatch h)⟩
  lookup_empty _ := rfl
  id_of_lookup h ha := h.keyed _ _ ha
  keeps_of_lookup _ _ _ _ := trivial
  runOn_findById _ _ := rfl
  runOn_findByIdentifier {s} identifier h := by
    refine ⟨_, h.runOn_findByIdentifier identifier, fun a ha => ?_⟩
    obtain ⟨id, -, hid⟩ := Option.bind_eq_some_iff.1 ha
    rw [h.keyed id a hid]
    exact hid
  runOn_updateCredentials {s id a changes} h ha hs := by
    refine ⟨s.stored id (a.changed changes), ?_, h.put (a.changed changes) ?_ fun _ _ => .inl,
      Table.get?_put_eq_update ..⟩
    · refine (runOn_updateCredentials id changes s).trans ?_
      rw [if_neg (by simp [unknownCredentialFields_of_storable hs]), ha]
    · rw [Account.changed_id, h.keyed id a ha]
      rfl
  runOn_updateCredentials_missing {s id changes} _ ha hs := by
    refine (runOn_updateCredentials id changes s).trans ?_
    rw [if_neg (by simp [unknownCredentialFields_of_storable hs]), ha]
  runOn_updateProfile {s id a} phoneNumber h ha := by
    refine ⟨s.stored id (a.renumbered phoneNumber), ?_, h.put (a.renumbered phoneNumber) ?_ fun _ _ => .inl,
      Table.get?_put_eq_update ..⟩
    · refine (runOn_updateProfile id _ s).trans ?_
      rw [if_neg (by simp [unknownProfileFields, ProfileChange.unknownName?]), ha]
      rfl
    · rw [Account.renumbered_id, h.keyed id a ha]
      rfl
  runOn_incrementAttempts {s id a} h ha := by
    have hrun := runOn_incrementAttempts id s
    rw [ha] at hrun
    split
    · next hg => exact hrun.trans (if_pos hg)
    · next hg =>
      refine ⟨s.stored id (a.counted (a.credentials.loginAttempts + 1)), hrun.trans (if_neg hg),
        h.put (a.counted (a.credentials.loginAttempts + 1)) ?_ fun _ _ => .inl, Table.get?_put_eq_update ..⟩
      rw [Account.counted_id, h.keyed id a ha]
      rfl
  runOn_create {s a _} h _ := by
    have hrun := runOn_create a s
    generalize Text.fold a.email = email at hrun ⊢
    by_cases hc : s.emailIndex.contains email ∨ s.accounts.contains a.id
    · exact .inl ⟨_, hrun.trans (if_pos hc)⟩
    · have hn : s.accounts.get? a.id = none := by
        simpa [Table.contains] using fun h => hc (.inr h)
      refine .inr ⟨_, hrun.trans (if_neg hc), h.put (a.readdressed email) rfl fun e id he => ?_, hn,
        Table.get?_put_eq_update ..⟩
      change (s.emailIndex.put email a.id).get? e = some id at he
      rw [Table.get?_put] at he
      split at he
      · exact .inr (Option.some.inj he).symm
      · exact .inl he

end MemoryStore

end AccountSecurity
