import AccountSecurity.Proofs.Store.EmailIndex
import AccountSecurity.Proofs.Store.Relational
import AccountSecurity.Proofs.Store.Row
import AccountSecurity.Proofs.Text.Lowercase

/-!
# The two stores agree

Whoever makes the same calls of the store in memory and of the store in a table gets the same answers, call by call.

* `StoreCall`, `StoreCall.answer`, `answers` : the calls of a store, and what is shown of their results;
* `StoreCall.Kept` : the call hands over only values that the columns keep as they are;
* `Mirrors` : the table has a row for every account in memory, and no other rows;
* `Mirrors.step` : every call keeps this, and gives the same in both stores;
* `answers_eq_iff`, `stores_agree` : so that the stores agree on all calls, as long as no count outgrows its column.
-/

namespace AccountSecurity

/-! ## Calls and answers -/

/-- A call of a store of accounts. -/
inductive StoreCall where
  | create (account : Account)
  | findByIdentifier (identifier : String)
  | findById (id : String)
  | updateCredentials (id : String) (changes : List CredentialChange)
  | updateProfile (id : String) (changes : List ProfileChange)
  | incrementAttempts (id : String)

/-- What a call gives. -/
inductive StoreReply where
  | done
  | found (account : Option Account)
  | count (attempts : Int)
deriving DecidableEq

/-- What is shown of a failure: the class and the message of a refusal, but not what caused it. -/
def Failure.shown : Failure → (ErrorClass × String) ⊕ Fault
  | .refused e => .inl (e.errorClass, e.message)
  | .fault f => .inr f

namespace StoreCall

section
variable {S : Type} [AccountStore S]

/-- The call, made of a store. -/
def perform : StoreCall → Action S StoreReply
  | create a => (fun _ => .done) <$> AccountStore.create a
  | findByIdentifier identifier => .found <$> AccountStore.findByIdentifier identifier
  | findById id => .found <$> AccountStore.findById id
  | updateCredentials id changes => (fun _ => .done) <$> AccountStore.updateCredentials id changes
  | updateProfile id changes => (fun _ => .done) <$> AccountStore.updateProfile id changes
  | incrementAttempts id => .count <$> AccountStore.incrementAttempts id

/-- What the call shows of its result. -/
def answer (call : StoreCall) (s : S) : Except ((ErrorClass × String) ⊕ Fault) StoreReply :=
  (call.perform.outcome s).mapError Failure.shown

/-- What calls show, each made of the store that the one before left. -/
def answers (s : S) : List StoreCall → List (Except ((ErrorClass × String) ⊕ Fault) StoreReply)
  | [] => []
  | call :: rest => call.answer s :: answers (call.perform.after s) rest

end

/-- The call hands over only values that the columns keep as they are, and an update has changes, each to another
field. -/
def Kept : StoreCall → Prop
  | create a => a.displayName.isSome ∧ a.credentials.Kept
  | updateCredentials _ changes => changes ≠ [] ∧ ∀ c ∈ changes, c.Kept
  | updateProfile _ changes => changes ≠ [] ∧ (∀ c ∈ changes, c.Kept) ∧ (changes.map ProfileChange.field).Nodup
  | _ => True

end StoreCall

theorem StoreCall.mapError_outcome_map {σ α β ε : Type} (g : Failure → ε) (f : α → β) (x : Action σ α) (s : σ) (b : β) :
    ((f <$> x).outcome s).mapError g = .ok b ↔ ∃ a, x.outcome s = .ok a ∧ f a = b := by
  unfold Action.outcome
  rw [Action.runOn_map]
  cases (x.runOn s).1 <;> simp [Except.map, Except.mapError]

/-! ## The accounts in memory and the rows of the table -/

/-- The table has a row for every account in memory, and no other rows. -/
structure Mirrors (m : MemoryStore) (s : RelationalStore) : Prop where
  lookup : ∀ id, (s.rowOf? id).map Row.account = (m.accounts.get? id).map .ok
  unique : s.IdsUnique

namespace Mirrors
variable {m : MemoryStore} {s : RelationalStore} {id email : String} {a : Account} {r : Row}

theorem empty : Mirrors MemoryStore.empty RelationalStore.empty where
  lookup _ := rfl
  unique := List.nodup_nil

theorem exists_row (h : Mirrors m s) (ha : m.accounts.get? id = some a) :
    ∃ r, s.rowOf? id = some r ∧ r.account = .ok a := by
  have hl := h.lookup id
  rw [ha] at hl
  exact Option.map_eq_some_iff.1 hl

theorem exists_account (h : Mirrors m s) (hr : r ∈ s.rows) :
    ∃ a, m.accounts.get? r.id = some a ∧ r.account = .ok a := by
  have hl := h.lookup r.id
  rw [RelationalStore.rowOf?_of_mem h.unique hr] at hl
  obtain ⟨a, ha, he⟩ := Option.map_eq_some_iff.1 hl.symm
  exact ⟨a, ha, he.symm⟩

theorem rowOf?_eq_none (h : Mirrors m s) (ha : m.accounts.get? id = none) : s.rowOf? id = none := by
  have hl := h.lookup id
  rw [ha] at hl
  exact Option.map_eq_none_iff.1 hl

/-- A row with an address is the row of the account that the index knows under it. -/
theorem email_iff (h : Mirrors m s) (hm : m.Exact) :
    (∃ r ∈ s.rows, r.id = id ∧ r.email = email) ↔ m.emailIndex.get? email = some id := by
  rw [hm.indexed]
  constructor
  · rintro ⟨r, hr, rfl, rfl⟩
    obtain ⟨a, ha, hra⟩ := h.exists_account hr
    exact ⟨a, ha, Row.email_of_account hra⟩
  · rintro ⟨a, ha, rfl⟩
    obtain ⟨r, hr, hra⟩ := h.exists_row ha
    obtain ⟨hmem, hid⟩ := RelationalStore.mem_of_rowOf? hr
    exact ⟨r, hmem, hid, (Row.email_of_account hra).symm⟩

/-- An address is looked for in the table with the same result as in the index. -/
theorem find_email (h : Mirrors m s) (hm : m.Exact) (email : String) :
    (s.rows.find? fun r => Text.asciiLower r.email == email).map Row.account =
      ((m.emailIndex.get? email).bind m.accounts.get?).map .ok := by
  -- stored addresses are folded, so that the table compares them as they are
  have hlower : ∀ r ∈ s.rows, Text.asciiLower r.email = r.email := by
    intro r hr
    obtain ⟨a, ha, hra⟩ := h.exists_account hr
    obtain ⟨text, htext⟩ := hm.folded r.id a ha
    rw [← Row.email_of_account hra, htext, Text.asciiLower_fold]
  cases hfind : s.rows.find? fun r => Text.asciiLower r.email == email with
  | none =>
    cases hindex : m.emailIndex.get? email with
    | none => rfl
    | some id =>
      obtain ⟨r, hr, -, he⟩ := (h.email_iff hm).2 hindex
      have hne := List.find?_eq_none.1 hfind r hr
      rw [hlower r hr, he] at hne
      exact absurd (beq_self_eq_true email) hne
  | some r =>
    have hr := List.mem_of_find?_eq_some hfind
    have he : r.email = email := by
      have hp := List.find?_some hfind
      rw [hlower r hr] at hp
      exact eq_of_beq hp
    obtain ⟨a, ha, hra⟩ := h.exists_account hr
    rw [(h.email_iff hm).1 ⟨r, hr, rfl, he⟩, Option.bind_some, ha, Option.map_some, Option.map_some, hra]

theorem conflict_iff (h : Mirrors m s) (hm : m.Exact) (id email : String) :
    (s.rows.any fun r => r.id == id || r.email == email) = true ↔
      m.emailIndex.contains email ∨ m.accounts.contains id := by
  simp only [List.any_eq_true, Bool.or_eq_true, beq_iff_eq, Table.contains, Option.isSome_iff_exists]
  constructor
  · rintro ⟨r, hr, rfl | he⟩
    · obtain ⟨a, ha, -⟩ := h.exists_account hr
      exact .inr ⟨a, ha⟩
    · exact .inl ⟨r.id, (h.email_iff hm).1 ⟨r, hr, rfl, he⟩⟩
  · rintro (⟨k, hk⟩ | ⟨a, ha⟩)
    · obtain ⟨r, hr, -, he⟩ := (h.email_iff hm).2 hk
      exact ⟨r, hr, .inr he⟩
    · obtain ⟨r, hr, -⟩ := h.exists_row ha
      obtain ⟨hmem, hid⟩ := RelationalStore.mem_of_rowOf? hr
      exact ⟨r, hmem, .inl hid⟩

theorem taken_iff (h : Mirrors m s) (hm : m.Exact) (id email : String) :
    (s.rows.any fun r => r.id != id && r.email == email) = (m.emailIndex.get? email).any (· != id) := by
  rw [Bool.eq_iff_iff]
  simp only [List.any_eq_true, Bool.and_eq_true, bne_iff_ne, beq_iff_eq, Option.any_eq_true]
  constructor
  · rintro ⟨r, hr, hne, he⟩
    exact ⟨r.id, (h.email_iff hm).1 ⟨r, hr, rfl, he⟩, hne⟩
  · rintro ⟨k, hk, hne⟩
    obtain ⟨r, hr, rfl, he⟩ := (h.email_iff hm).2 hk
    exact ⟨r, hr, hne, he⟩

/-! ## Writing an account -/

theorem replaced (h : Mirrors m s) {m' : MemoryStore} {b : Account} {f : Row → Row}
    (hm' : m'.accounts = m.accounts.put id b) (ha : m.accounts.get? id = some a) (hid : ∀ r, (f r).id = r.id)
    (hf : ∀ r, r.account = .ok a → (f r).account = .ok b) : Mirrors m' (s.replaced id f) where
  lookup k := by
    rw [RelationalStore.rowOf?_replaced hid, hm', Table.get?_put]
    split
    · next hk =>
      subst hk
      obtain ⟨r, hr, hra⟩ := h.exists_row ha
      rw [hr, Option.map_some, Option.map_some, Option.map_some, hf r hra]
    · exact h.lookup k
  unique := h.unique.replaced hid id

theorem appended (h : Mirrors m s) {m' : MemoryStore} (hm' : m'.accounts = m.accounts.put r.id a)
    (hnew : m.accounts.get? r.id = none) (hr : r.account = .ok a) : Mirrors m' (s.appended r) where
  lookup k := by
    rw [RelationalStore.rowOf?_appended, hm', Table.get?_put]
    split
    · next hk =>
      subst hk
      rw [h.rowOf?_eq_none hnew, Option.none_or, Option.map_some, Option.map_some, hr]
    · rw [Option.or_none]
      exact h.lookup k
  unique := by
    refine h.unique.appended fun r' hr' he => ?_
    obtain ⟨a', ha', -⟩ := h.exists_account hr'
    rw [he, hnew] at ha'
    cases ha'

end Mirrors

/-! ## One call -/

/-- The same call ends alike in both stores: with the same result or with failures that show the same, and with an
account in memory for every row. -/
def Alike {α : Type} (x : Except Failure α × RelationalStore) (y : Except Failure α × MemoryStore) : Prop :=
  x.1.mapError Failure.shown = y.1.mapError Failure.shown ∧ Mirrors y.2 x.2

theorem Alike.map {α β : Type} (f : α → β) {x : Action RelationalStore α} {y : Action MemoryStore α}
    {s : RelationalStore} {m : MemoryStore} (h : Alike (x.runOn s) (y.runOn m)) :
    Alike ((f <$> x).runOn s) ((f <$> y).runOn m) := by
  have hcomm (r : Except Failure α) : (r.map f).mapError Failure.shown = (r.mapError Failure.shown).map f := by
    cases r <;> rfl
  rw [Action.runOn_map, Action.runOn_map]
  refine ⟨?_, h.2⟩
  rw [hcomm, hcomm, h.1]

theorem MemoryStore.Exact.map {α β : Type} (f : α → β) {x : Action MemoryStore α} {m : MemoryStore}
    (h : (x.after m).Exact) : ((f <$> x).after m).Exact := by
  unfold Action.after
  rw [Action.snd_runOn_map]
  exact h

/-- Every call keeps the index of addresses exact. -/
theorem MemoryStore.Exact.after {m : MemoryStore} (h : m.Exact) (call : StoreCall) : (call.perform.after m).Exact := by
  cases call with
  | create a => exact (h.create a).map _
  | findByIdentifier identifier => exact (h.findByIdentifier identifier).map _
  | findById id => exact h
  | updateCredentials id changes => exact (h.updateCredentials id changes).map _
  | updateProfile id changes => exact (h.updateProfile id changes).map _
  | incrementAttempts id => exact (h.incrementAttempts id).map _

namespace Mirrors
variable {m : MemoryStore} {s : RelationalStore} (h : Mirrors m s) (hm : m.Exact)
include h

theorem alike_findById (id : String) :
    Alike ((RelationalStore.findById id).runOn s) ((MemoryStore.findById id).runOn m) := by
  rw [RelationalStore.runOn_findById, RelationalStore.runOn_read (h.lookup id)]
  exact ⟨rfl, h⟩

theorem alike_incrementAttempts (id : String)
    (hcount : ∀ n, (MemoryStore.incrementAttempts id).outcome m = .ok n → n ≤ columnBound) :
    Alike ((RelationalStore.incrementAttempts id).runOn s) ((MemoryStore.incrementAttempts id).runOn m) := by
  unfold Action.outcome at hcount
  rw [RelationalStore.runOn_incrementAttempts]
  rw [MemoryStore.runOn_incrementAttempts] at hcount ⊢
  cases ha : m.accounts.get? id with
  | none =>
    rw [h.rowOf?_eq_none ha]
    exact ⟨rfl, h⟩
  | some a =>
    obtain ⟨r, hr, hra⟩ := h.exists_row ha
    rw [ha] at hcount
    rw [hr]
    dsimp only at hcount ⊢
    rw [Row.gaps_of_account hra] at hcount ⊢
    have hn : min (r.loginAttempts + 1) columnBound = a.credentials.loginAttempts + 1 := by
      rw [← Row.loginAttempts_of_account hra]
      exact min_eq_left (hcount _ rfl)
    rw [hn]
    exact ⟨rfl, h.replaced rfl ha (fun _ => rfl) fun r hr => Row.account_counted hr _⟩

theorem alike_updateCredentials (id : String) {changes : List CredentialChange} (hne : changes ≠ [])
    (hkept : ∀ c ∈ changes, c.Kept) :
    Alike ((RelationalStore.updateCredentials id changes).runOn s)
      ((MemoryStore.updateCredentials id changes).runOn m) := by
  rw [RelationalStore.runOn_updateCredentials, MemoryStore.runOn_updateCredentials]
  split
  · exact ⟨rfl, h⟩
  have hrecord : changes.findSome? CredentialChange.recordFault? = none :=
    RelationalStore.findSome?_recordFault?_eq_none.2 (List.any_eq_false.2 fun c hc => by simp [(hkept c hc).allowed])
  have hlarge : changes.any CredentialChange.isTooLarge = false :=
    List.any_eq_false.2 fun c hc => by simp [(hkept c hc).allowed]
  have habsent : changes.any CredentialChange.isAbsent = false :=
    List.any_eq_false.2 fun c hc => by simp [(hkept c hc).allowed]
  have hempty : changes.isEmpty = false := by simpa using hne
  rw [hrecord, hlarge, habsent, hempty]
  cases ha : m.accounts.get? id with
  | none =>
    rw [h.rowOf?_eq_none ha]
    exact ⟨rfl, h⟩
  | some a =>
    obtain ⟨r, hr, hra⟩ := h.exists_row ha
    rw [hr]
    exact ⟨rfl, h.replaced rfl ha (Row.applyCredentials_id changes) fun r hr => Row.account_applyCredentials hr hkept⟩

include hm

theorem alike_findByIdentifier (identifier : String) :
    Alike ((RelationalStore.findByIdentifier identifier).runOn s)
      ((MemoryStore.findByIdentifier identifier).runOn m) := by
  rw [RelationalStore.runOn_findByIdentifier, RelationalStore.runOn_read (h.find_email hm _),
    hm.linked.runOn_findByIdentifier]
  exact ⟨rfl, h⟩

theorem alike_create {a : Account} (hname : a.displayName.isSome) (hkept : a.credentials.Kept) :
    Alike ((RelationalStore.create a).runOn s) ((MemoryStore.create a).runOn m) := by
  obtain ⟨name, hname⟩ := Option.isSome_iff_exists.1 hname
  have hhash : a.credentials.gaps.passwordHash = false := by rw [hkept.gaps]
  have hconflict := h.conflict_iff hm a.id (Text.fold a.email)
  have hrow := Row.account_ofAccount hname hkept
  rw [RelationalStore.runOn_create hkept.loginAttempts hname hhash, MemoryStore.runOn_create]
  by_cases hc : m.emailIndex.contains (Text.fold a.email) ∨ m.accounts.contains a.id
  · rw [if_pos (hconflict.2 hc), if_pos hc]
    exact ⟨rfl, h⟩
  · rw [if_neg (mt hconflict.1 hc), if_neg hc]
    have hnew : m.accounts.get? a.id = none := by
      simpa [Table.contains] using fun hid => hc (.inr hid)
    exact ⟨rfl, h.appended rfl hnew hrow⟩

theorem alike_updateProfile (id : String) {changes : List ProfileChange} (hne : changes ≠ [])
    (hkept : ∀ c ∈ changes, c.Kept) (hfields : (changes.map ProfileChange.field).Nodup) :
    Alike ((RelationalStore.updateProfile id changes).runOn s) ((MemoryStore.updateProfile id changes).runOn m) := by
  rw [RelationalStore.runOn_updateProfile, hm.runOn_updateProfile]
  split
  · exact ⟨rfl, h⟩
  have hlacks : changes.any ProfileChange.lacksEmail = false :=
    List.any_eq_false.2 fun c hc => by simp [(hkept c hc).allowed]
  have habsent : changes.any ProfileChange.isAbsent = false :=
    List.any_eq_false.2 fun c hc => by simp [(hkept c hc).allowed]
  have hempty : changes.isEmpty = false := by simpa using hne
  rw [hlacks, habsent, hempty]
  cases ha : m.accounts.get? id with
  | none =>
    rw [h.rowOf?_eq_none ha]
    exact ⟨rfl, h⟩
  | some a =>
    obtain ⟨r, hr, -⟩ := h.exists_row ha
    rw [hr]
    unfold RelationalStore.emailTaken
    cases hnew : newEmail? changes with
    | none =>
      refine ⟨rfl, h.replaced rfl ha (Row.applyProfiles_id changes) fun r hr => ?_⟩
      rw [Row.account_applyProfiles hr hkept hfields, hnew]
      show Except.ok ((ProfileChange.applyAll a changes).readdressed a.email) = _
      rw [← ProfileChange.email_applyAll hnew a]
      rfl
    | some email =>
      have htaken := h.taken_iff hm id (Text.fold email)
      rw [Option.any_some, htaken, Bool.false_or]
      by_cases hc : (m.emailIndex.get? (Text.fold email)).any (· != id)
      · dsimp only
        rw [if_pos hc, if_pos hc]
        exact ⟨rfl, h⟩
      · dsimp only
        rw [if_neg hc, if_neg hc]
        refine ⟨rfl, h.replaced rfl ha (Row.applyProfiles_id changes) fun r hr => ?_⟩
        rw [Row.account_applyProfiles hr hkept hfields, hnew]
        rfl

/-- **Every call** ends alike, unless it counts further than a column does. -/
theorem step {call : StoreCall} (hkept : call.Kept)
    (hcount : ∀ n, call.answer m = .ok (.count n) → n ≤ columnBound) :
    Alike (call.perform.runOn s) (call.perform.runOn m) := by
  cases call with
  | create a => exact (h.alike_create hm hkept.1 hkept.2).map _
  | findByIdentifier identifier => exact (h.alike_findByIdentifier hm identifier).map _
  | findById id => exact (h.alike_findById id).map _
  | updateCredentials id changes => exact (h.alike_updateCredentials id hkept.1 hkept.2).map _
  | updateProfile id changes => exact (h.alike_updateProfile hm id hkept.1 hkept.2.1 hkept.2.2).map _
  | incrementAttempts id =>
    refine (h.alike_incrementAttempts id fun n hn => hcount n ?_).map _
    exact (StoreCall.mapError_outcome_map ..).2 ⟨n, hn, rfl⟩

end Mirrors

/-! ## All calls -/

open StoreCall (answers)

/-- A count that the table gives is never beyond the end of its column by more than one. -/
theorem count_le_columnBound {s : RelationalStore} {calls : List StoreCall} {n : Int}
    (h : .ok (.count n) ∈ answers s calls) : n ≤ columnBound := by
  induction calls generalizing s with
  | nil => cases h
  | cons call rest ih =>
    obtain h | h := List.mem_cons.1 h
    · obtain ⟨id, hid⟩ : ∃ id, (RelationalStore.incrementAttempts id).outcome s = .ok n := by
        cases call with
        | incrementAttempts id =>
          obtain ⟨k, hk, he⟩ := (StoreCall.mapError_outcome_map ..).1 h.symm
          cases he
          exact ⟨id, hk⟩
        | _ =>
          obtain ⟨_, -, he⟩ := (StoreCall.mapError_outcome_map ..).1 h.symm
          cases he
      unfold Action.outcome at hid
      rw [RelationalStore.runOn_incrementAttempts] at hid
      split at hid
      · cases hid
      · cases hid
        exact min_le_right ..
    · exact ih h

theorem Mirrors.answers_eq {m : MemoryStore} {s : RelationalStore} (h : Mirrors m s) (hm : m.Exact)
    {calls : List StoreCall} (hkept : ∀ c ∈ calls, c.Kept)
    (hcounts : ∀ n, .ok (.count n) ∈ answers m calls → n ≤ columnBound) : answers s calls = answers m calls := by
  -- along the calls, `Mirrors` and `Exact` hold between the stores that are left
  induction calls generalizing m s with
  | nil => rfl
  | cons call rest ih =>
    have hstep := h.step hm (hkept call (List.mem_cons_self ..)) fun n hn => hcounts n (hn ▸ List.mem_cons_self ..)
    have hrest := ih hstep.2 (hm.after call) (fun c hc => hkept c (List.mem_cons_of_mem _ hc))
      fun n hn => hcounts n (List.mem_cons_of_mem _ hn)
    exact congrArg₂ List.cons hstep.1 hrest

/-- The stores agree on calls that hand over only what the columns keep, exactly as long as no count is further beyond
the end of its column than one. -/
theorem answers_eq_iff {calls : List StoreCall} (hkept : ∀ c ∈ calls, c.Kept) :
    answers RelationalStore.empty calls = answers MemoryStore.empty calls ↔
      ∀ n, .ok (.count n) ∈ answers MemoryStore.empty calls → n ≤ columnBound := by
  constructor
  · intro he n hn
    rw [← he] at hn
    exact count_le_columnBound hn
  · exact Mirrors.empty.answers_eq MemoryStore.exact_empty hkept

/-- The stores agree on calls that hand over only what the columns keep, as long as every count fits its column. -/
theorem stores_agree {calls : List StoreCall} (hkept : ∀ c ∈ calls, c.Kept)
    (hcounts : ∀ n, .ok (.count n) ∈ answers MemoryStore.empty calls → fitsColumn n) :
    answers RelationalStore.empty calls = answers MemoryStore.empty calls := by
  refine (answers_eq_iff hkept).2 fun n hn => ?_
  have hfits := hcounts n hn
  simp only [fitsColumn, Bool.and_eq_true, decide_eq_true_eq] at hfits
  exact Int.le_of_lt hfits.2

/-- An account is made, its wrong passwords are counted, and it moves to another address. -/
def StoreCall.sample : List StoreCall :=
  [.create { id := "1", email := "A", displayName := some "User" }, .incrementAttempts "1", .incrementAttempts "2",
    .updateProfile "1" [.email (some "B")], .findByIdentifier "a", .findByIdentifier "b"]

theorem StoreCall.answers_sample : answers MemoryStore.empty sample =
    [.ok .done, .ok (.count 1), .error (.inl (.accountNotFound, SecurityError.message (.accountNotFound "2"))),
      .ok .done, .ok (.found none),
      .ok (.found (some { id := "1", email := "b", displayName := some "User", credentials := { loginAttempts := 1 } }))] := by
  decide +kernel

theorem stores_agree_sample :
    (∀ c ∈ StoreCall.sample, c.Kept) ∧
      (∀ n, .ok (.count n) ∈ answers MemoryStore.empty StoreCall.sample → fitsColumn n) ∧
      answers RelationalStore.empty StoreCall.sample = answers MemoryStore.empty StoreCall.sample := by
  have hkept : ∀ c ∈ StoreCall.sample, c.Kept := by
    have hcredentials : Credentials.Kept {} :=
      ⟨rfl, by decide, by simp, by simp, by simp, by simp⟩
    simp [StoreCall.sample, StoreCall.Kept, ProfileChange.Kept, hcredentials]
  have hcounts : ∀ n, .ok (.count n) ∈ answers MemoryStore.empty StoreCall.sample → fitsColumn n := by
    intro n hn
    rw [StoreCall.answers_sample] at hn
    obtain rfl : n = 1 := by simpa using hn
    decide
  exact ⟨hkept, hcounts, stores_agree hkept hcounts⟩

end AccountSecurity
