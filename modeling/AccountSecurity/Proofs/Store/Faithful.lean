import AccountSecurity.Proofs.StoreAgreement

/-!
# Faithful stores

A store is faithful if it answers every call as a store in memory does, as long as its columns keep what the call hands
over. So it stands for accounts under identifiers, whatever it keeps of them.

* `FaithfulStore` : such a store, with its instances for the store in memory and the store in a table;
* `FaithfulStore.runOn_updateCredentials` and its like : what a call gives in memory, it gives in the store;
* `Holds` : the accounts that a store stands for;
* `Holds.outcome_findById`, `Holds.outcome_findByIdentifier` : they are what the store finds, and nothing else is found;
* `holds_empty`, `Holds.exists_after`, `exists_holds_afterAll` : the store stands for some accounts after any calls;
* `RelationalStore.Orderly`, `RelationalStore.exists_holds_iff` : which tables stand for accounts.
-/

namespace AccountSecurity

/-- A store that answers as one in memory does. -/
class FaithfulStore (S : Type) [AccountStore S] where
  /-- The store goes with a store in memory. -/
  Mirrors : S → MemoryStore → Prop
  /-- The store has room for a count of wrong passwords. -/
  Counts : Int → Prop
  exact_of_mirrors {s : S} {m : MemoryStore} : Mirrors s m → m.Exact
  mirrors_empty : Mirrors AccountStore.empty AccountStore.empty
  perform {s : S} {m : MemoryStore} {call : StoreCall} : Mirrors s m → call.Kept →
    (∀ n, call.answer m = .ok (.count n) → Counts n) →
    call.answer s = call.answer m ∧ Mirrors (call.perform.after s) (call.perform.after m)
  /-- A call that finds no room for a count leaves a store that goes with another one in memory. -/
  exists_mirrors_after {s : S} {m : MemoryStore} {call : StoreCall} : Mirrors s m → call.Kept →
    ∃ t, Mirrors (call.perform.after s) t

instance : FaithfulStore MemoryStore where
  Mirrors s m := s = m ∧ m.Exact
  Counts _ := True
  exact_of_mirrors h := h.2
  mirrors_empty := ⟨rfl, MemoryStore.exact_empty⟩
  perform {s m call} h _ _ := by
    obtain ⟨rfl, hm⟩ := h
    exact ⟨rfl, rfl, hm.after call⟩
  exists_mirrors_after {s m call} h _ := by
    obtain ⟨rfl, hm⟩ := h
    exact ⟨_, rfl, hm.after call⟩

/-- The table counts as far as its column goes, and what it counts can be counted in memory. -/
theorem Mirrors.exists_after_incrementAttempts {m : MemoryStore} {s : RelationalStore} (h : Mirrors m s) (hm : m.Exact)
    (id : String) : ∃ t, Mirrors t ((RelationalStore.incrementAttempts id).after s) ∧ t.Exact := by
  unfold Action.after
  rw [RelationalStore.runOn_incrementAttempts]
  cases hr : s.rowOf? id with
  | none => exact ⟨m, h, hm⟩
  | some r =>
    obtain ⟨hmem, rfl⟩ := RelationalStore.mem_of_rowOf? hr
    obtain ⟨a, ha, -⟩ := h.exists_account hmem
    exact ⟨m.stored r.id (a.counted (min (r.loginAttempts + 1) columnBound)),
      h.replaced rfl ha (fun _ => rfl) fun _ hrow => Row.account_counted hrow _, hm.stored ha rfl rfl⟩

instance : FaithfulStore RelationalStore where
  Mirrors s m := AccountSecurity.Mirrors m s ∧ m.Exact
  Counts n := n ≤ columnBound
  exact_of_mirrors h := h.2
  mirrors_empty := ⟨Mirrors.empty, MemoryStore.exact_empty⟩
  perform {s m call} h hkept hcounts := by
    obtain ⟨hanswer, hafter⟩ := h.1.step h.2 hkept hcounts
    exact ⟨hanswer, hafter, h.2.after call⟩
  exists_mirrors_after {s m call} h hkept := by
    cases call with
    | incrementAttempts id =>
      unfold StoreCall.perform Action.after
      rw [Action.snd_runOn_map]
      exact h.1.exists_after_incrementAttempts h.2 id
    | _ =>
      refine ⟨_, (h.1.step h.2 hkept fun n hn => ?_).2, h.2.after _⟩
      obtain ⟨_, -, he⟩ := (StoreCall.mapError_outcome_map ..).1 hn
      cases he

/-- A new account is added under an identifier and an address that no account has. -/
theorem MemoryStore.Exact.runOn_create_of_new {m : MemoryStore} (hm : m.Exact) {a : Account}
    (hid : m.accounts.get? a.id = none)
    (hemail : ∀ b, m.accounts.get? b.id = some b → b.email ≠ Text.fold a.email) :
    (MemoryStore.create a).runOn m = (.ok (), m.added (a.readdressed (Text.fold a.email))) := by
  rw [MemoryStore.runOn_create, if_neg]
  simp only [Table.contains, Option.isSome_iff_exists]
  rintro (⟨id, hindex⟩ | ⟨b, hb⟩)
  · obtain ⟨b, hb, he⟩ := (hm.indexed _ id).1 hindex
    obtain rfl := hm.keyed id b hb
    exact hemail b hb he
  · rw [hid] at hb
    cases hb

/-! ## Single calls -/

namespace FaithfulStore
variable {S : Type} [AccountStore S] [FaithfulStore S] {s : S} {m t : MemoryStore} {id : String}

/-- What a call gives when it succeeds in memory, it gives in the store as well. -/
theorem runOn_of_perform {α : Type} (call : StoreCall) {x : Action S α} {y : Action MemoryStore α} {f : α → StoreReply}
    (hf : Function.Injective f) (hx : call.perform = f <$> x) (hy : call.perform = f <$> y) (h : Mirrors s m)
    (hkept : call.Kept) {a : α} (hcounts : ∀ n, f a = .count n → Counts S n) (hok : y.runOn m = (.ok a, t)) :
    ∃ u, x.runOn s = (.ok a, u) ∧ Mirrors u t := by
  have hshown : call.answer m = .ok (f a) := by
    rw [StoreCall.answer, hy, StoreCall.mapError_outcome_map]
    exact ⟨a, by rw [Action.outcome, hok], rfl⟩
  have ht : call.perform.after m = t := by rw [hy, Action.after, Action.snd_runOn_map, hok]
  obtain ⟨hanswer, hafter⟩ := perform h hkept fun n hn => hcounts n (Except.ok.inj (hshown.symm.trans hn))
  rw [hshown, StoreCall.answer, hx, StoreCall.mapError_outcome_map] at hanswer
  rw [ht, hx, Action.after, Action.snd_runOn_map] at hafter
  obtain ⟨b, hb, he⟩ := hanswer
  obtain rfl := hf he
  exact ⟨x.after s, Prod.ext hb rfl, hafter⟩

section Calls
variable (h : Mirrors s m)
include h

theorem runOn_findById (id : String) :
    ∃ u, (AccountStore.findById id).runOn s = (.ok (m.accounts.get? id), u) ∧ Mirrors u m :=
  runOn_of_perform (.findById id) (fun _ _ => StoreReply.found.inj) rfl rfl h trivial nofun
    (y := MemoryStore.findById id) rfl

theorem runOn_findByIdentifier (identifier : String) :
    ∃ u, (AccountStore.findByIdentifier identifier).runOn s =
      (.ok ((m.emailIndex.get? (Text.fold identifier)).bind m.accounts.get?), u) ∧ Mirrors u m :=
  runOn_of_perform (.findByIdentifier identifier) (fun _ _ => StoreReply.found.inj) rfl rfl h trivial nofun
    ((exact_of_mirrors h).linked.runOn_findByIdentifier identifier)

theorem runOn_updateCredentials {changes : List CredentialChange} (hne : changes ≠ []) (hkept : ∀ c ∈ changes, c.Kept)
    (hok : (AccountStore.updateCredentials id changes).runOn m = (.ok (), t)) :
    ∃ u, (AccountStore.updateCredentials id changes).runOn s = (.ok (), u) ∧ Mirrors u t :=
  runOn_of_perform (.updateCredentials id changes) (f := fun _ => .done) (fun _ _ _ => rfl) rfl rfl h
    ⟨hne, hkept⟩ nofun hok

theorem runOn_updateProfile {changes : List ProfileChange} (hne : changes ≠ []) (hkept : ∀ c ∈ changes, c.Kept)
    (hfields : (changes.map ProfileChange.field).Nodup)
    (hok : (AccountStore.updateProfile id changes).runOn m = (.ok (), t)) :
    ∃ u, (AccountStore.updateProfile id changes).runOn s = (.ok (), u) ∧ Mirrors u t :=
  runOn_of_perform (.updateProfile id changes) (f := fun _ => .done) (fun _ _ _ => rfl) rfl rfl h
    ⟨hne, hkept, hfields⟩ nofun hok

theorem runOn_incrementAttempts {n : Int} (hroom : Counts S n)
    (hok : (AccountStore.incrementAttempts id).runOn m = (.ok n, t)) :
    ∃ u, (AccountStore.incrementAttempts id).runOn s = (.ok n, u) ∧ Mirrors u t :=
  runOn_of_perform (.incrementAttempts id) (fun _ _ => StoreReply.count.inj) rfl rfl h trivial
    (fun _ hn => StoreReply.count.inj hn ▸ hroom) hok

theorem runOn_create {a : Account} (hname : a.displayName.isSome) (hkept : a.credentials.Kept)
    (hok : (AccountStore.create a).runOn m = (.ok (), t)) :
    ∃ u, (AccountStore.create a).runOn s = (.ok (), u) ∧ Mirrors u t :=
  runOn_of_perform (.create a) (f := fun _ => .done) (fun _ _ _ => rfl) rfl rfl h ⟨hname, hkept⟩ nofun hok

end Calls

end FaithfulStore

/-! ## The accounts -/

/-- The accounts that a store stands for, under their identifiers. -/
def Holds {S : Type} [AccountStore S] [FaithfulStore S] (s : S) (accounts : String → Option Account) : Prop :=
  ∃ m, FaithfulStore.Mirrors s m ∧ m.accounts.get? = accounts

section Holds
variable {S : Type} [AccountStore S] [FaithfulStore S] {s : S} {accounts : String → Option Account}

/-- The account under an identifier is the one that is found. -/
theorem Holds.outcome_findById (h : Holds s accounts) (id : String) :
    (AccountStore.findById id).outcome s = .ok (accounts id) := by
  obtain ⟨m, hm, rfl⟩ := h
  obtain ⟨u, hr, -⟩ := FaithfulStore.runOn_findById hm id
  rw [Action.outcome, hr]

/-- A store stands for one collection of accounts. -/
theorem Holds.unique (h : Holds s accounts) {others : String → Option Account} (h' : Holds s others) :
    others = accounts := by
  funext id
  exact Except.ok.inj ((h'.outcome_findById id).symm.trans (h.outcome_findById id))

/-- The account with an address, however it is spelled, is the one that is found. -/
theorem Holds.outcome_findByIdentifier (h : Holds s accounts) (identifier : String) :
    ∃ found, (AccountStore.findByIdentifier identifier).outcome s = .ok found ∧
      ∀ a, found = some a ↔ accounts a.id = some a ∧ a.email = Text.fold identifier := by
  obtain ⟨m, hm, rfl⟩ := h
  obtain ⟨u, hr, -⟩ := FaithfulStore.runOn_findByIdentifier hm identifier
  exact ⟨_, by rw [Action.outcome, hr],
    fun a => (FaithfulStore.exact_of_mirrors hm).findByIdentifier_iff identifier⟩

theorem Holds.id_eq (h : Holds s accounts) {id : String} {a : Account} (ha : accounts id = some a) : a.id = id := by
  obtain ⟨m, hm, rfl⟩ := h
  exact (FaithfulStore.exact_of_mirrors hm).keyed id a ha

/-- No two accounts have the same address. -/
theorem Holds.id_unique (h : Holds s accounts) {id id' : String} {a b : Account} (ha : accounts id = some a)
    (hb : accounts id' = some b) (he : a.email = b.email) : id = id' := by
  obtain ⟨m, hm, rfl⟩ := h
  exact (FaithfulStore.exact_of_mirrors hm).id_unique ha hb he

theorem holds_of_exact {m : MemoryStore} (h : m.Exact) : Holds m m.accounts.get? := ⟨m, ⟨rfl, h⟩, rfl⟩

theorem holds_empty : Holds (AccountStore.empty : S) fun _ => none :=
  ⟨_, FaithfulStore.mirrors_empty, rfl⟩

/-- After a call that hands over only what columns keep, the store stands for some accounts again. -/
theorem Holds.exists_after (h : Holds s accounts) {call : StoreCall} (hkept : call.Kept) :
    ∃ next, Holds (call.perform.after s) next := by
  obtain ⟨m, hm, -⟩ := h
  obtain ⟨t, ht⟩ := FaithfulStore.exists_mirrors_after hm hkept
  exact ⟨_, t, ht, rfl⟩

/-- The store after calls on an empty one. -/
def StoreCall.afterAll (S : Type) [AccountStore S] (calls : List StoreCall) : S :=
  calls.foldl (fun s call => call.perform.after s) AccountStore.empty

/-- Whatever calls were made that hand over only what columns keep, the store stands for some accounts. -/
theorem exists_holds_afterAll {calls : List StoreCall} (hkept : ∀ call ∈ calls, call.Kept) :
    ∃ accounts, Holds (StoreCall.afterAll S calls) accounts := by
  induction calls using List.reverseRecOn with
  | nil => exact ⟨_, holds_empty⟩
  | append_singleton calls call ih =>
    obtain ⟨accounts, h⟩ := ih fun c hc => hkept c (List.mem_append_left _ hc)
    have hlast : StoreCall.afterAll S (calls ++ [call]) = call.perform.after (StoreCall.afterAll S calls) :=
      List.foldl_append ..
    rw [hlast]
    exact h.exists_after (hkept call (by simp))

end Holds

/-! ## Tables -/

/-- A table of rows that can be read: no two have the same identifier or the same address, and addresses are folded. -/
structure RelationalStore.Orderly (s : RelationalStore) : Prop where
  ids : s.IdsUnique
  emails : (s.rows.map Row.email).Nodup
  folded : ∀ r ∈ s.rows, ∃ text, r.email = Text.fold text
  accounts : ∀ r ∈ s.rows, ∃ a, r.account = .ok a

/-- Such a table goes with the store in memory to which its accounts are added row by row. -/
theorem RelationalStore.Orderly.exists_mirrors {s : RelationalStore} (h : s.Orderly) : ∃ m, Mirrors m s ∧ m.Exact := by
  obtain ⟨rows⟩ := s
  induction rows using List.reverseRecOn with
  | nil => exact ⟨_, Mirrors.empty, MemoryStore.exact_empty⟩
  | append_singleton rows r ih =>
    obtain ⟨hids, hemails, hfolded, haccounts⟩ := h
    unfold IdsUnique at hids
    rw [List.map_append, List.nodup_append] at hids hemails
    obtain ⟨hids, -, hnewId⟩ := hids
    obtain ⟨hemails, -, hnewEmail⟩ := hemails
    obtain ⟨m, hm, hexact⟩ := ih ⟨hids, hemails, fun x hx => hfolded x (List.mem_append_left _ hx),
      fun x hx => haccounts x (List.mem_append_left _ hx)⟩
    obtain ⟨a, ha⟩ := haccounts r (by simp)
    obtain ⟨text, htext⟩ := hfolded r (by simp)
    have hid : a.id = r.id := Row.id_of_account ha
    have he : a.email = r.email := Row.email_of_account ha
    have hmissing : m.accounts.get? r.id = none := by
      cases hb : m.accounts.get? r.id with
      | none => rfl
      | some b =>
        obtain ⟨x, hx, -⟩ := hm.exists_row hb
        obtain ⟨hmem, hxid⟩ := RelationalStore.mem_of_rowOf? hx
        exact absurd hxid (hnewId _ (List.mem_map_of_mem hmem) _ (by simp))
    have hfree : m.emailIndex.get? a.email = none := by
      cases hk : m.emailIndex.get? a.email with
      | none => rfl
      | some k =>
        obtain ⟨x, hmem, -, hxe⟩ := (hm.email_iff hexact).2 hk
        exact absurd (hxe.trans he) (hnewEmail _ (List.mem_map_of_mem hmem) _ (by simp))
    exact ⟨m.added a, hm.appended (by rw [← hid]; rfl) hmissing ha,
      hexact.added (hid ▸ hmissing) hfree ⟨text, he.trans htext⟩⟩

/-- **Which tables stand for accounts.** -/
theorem RelationalStore.exists_holds_iff {s : RelationalStore} : (∃ accounts, Holds s accounts) ↔ s.Orderly := by
  constructor
  · rintro ⟨accounts, m, ⟨hm, hexact⟩, -⟩
    refine ⟨hm.unique, ?_, fun r hr => ?_, fun r hr => ?_⟩
    · refine List.Nodup.map_on (fun r hr x hx he => ?_) hm.unique.of_map
      obtain ⟨a, ha, hra⟩ := hm.exists_account hr
      obtain ⟨b, hb, hxb⟩ := hm.exists_account hx
      have hid : r.id = x.id := hexact.id_unique ha hb
        ((Row.email_of_account hra).trans (he.trans (Row.email_of_account hxb).symm))
      have hrow := RelationalStore.rowOf?_of_mem hm.unique hr
      rw [hid, RelationalStore.rowOf?_of_mem hm.unique hx] at hrow
      exact (Option.some.inj hrow).symm
    · obtain ⟨a, ha, hra⟩ := hm.exists_account hr
      obtain ⟨text, htext⟩ := hexact.folded r.id a ha
      exact ⟨text, (Row.email_of_account hra).symm.trans htext⟩
    · obtain ⟨a, -, hra⟩ := hm.exists_account hr
      exact ⟨a, hra⟩
  · intro h
    obtain ⟨m, hm, hexact⟩ := h.exists_mirrors
    exact ⟨_, m, ⟨hm, hexact⟩, rfl⟩

end AccountSecurity
