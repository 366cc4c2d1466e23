import AccountSecurity.Proofs.Store.Lawful
import AccountSecurity.Service.World
import Mathlib.Tactic.Simps.Basic

/-!
# The state under the primitive operations

* `World.Sound` : the store is valid and the clock shows universal time;
* `World.changed`, `World.renumbered`, `World.logged`, … : the state after each primitive operation;
* `runOn_utcNow`, `runOn_record`, `runOn_requireAccount`, … : what each of them gives in a sound state;
* `account?_changed`, `account?_renumbered`, … : the accounts afterwards;
* `World.part?`, `World.part` : a part of an account, if it is there, or else that of a fresh one.
-/

namespace AccountSecurity

namespace DateTime

/-- A clock of universal time shows the time in universal time. -/
theorem toUtc?_of_offset {t : DateTime} (h : t.offset = 0) : t.toUtc? = some t := by
  obtain ⟨wall, offset, hw, hl, hu⟩ := t
  subst h
  have h0 : 0 < perDay := by decide
  simp [toUtc?, of?, instant, hw, h0]

theorem offset_of_addMicros {t u : DateTime} {n : Int} (h : t.addMicros? n = some u) : u.offset = t.offset := by
  unfold addMicros? of? at h
  split at h
  · cases h; rfl
  · cases h

theorem offset_of_addMinutes {t u : DateTime} {n : Int} (h : t.addMinutes? n = some u) : u.offset = t.offset :=
  offset_of_addMicros h

theorem instant_of_addMinutes {t u : DateTime} {n : Int} (h : t.addMinutes? n = some u) :
    u.instant = t.instant + n * perMinute := by
  unfold addMinutes? addMicros? of? at h
  split at h
  · next hr =>
    cases h
    simp only [instant, Int.toNat_of_nonneg hr.1.1]
    omega
  · cases h

end DateTime

namespace World
open LawfulStore
variable {S : Type}

/-! ## The state after each primitive operation -/

/-- The state with another event in the log, if events are recorded. -/
@[simps clock store sessions outbox outage drawn tokensTaken idsTaken]
def logged (setup : Setup) (eventType : EventType) (principal : Option String)
    (context : Option RequestContext) (error : Option SecurityError) (metadata : List (String × Json))
    (w : World S) : World S :=
  { w with
    audit :=
      if setup.audited then
        w.audit.record (Event.of w.clock eventType principal context (error.map (·.errorClass.name)) (.object metadata))
      else w.audit }

/-- The state after taking random numbers. -/
@[simps] def drew (count : Nat) (w : World S) : World S := { w with drawn := w.drawn + count }

/-- The state after a message was sent. -/
@[simps] def sent (message : TextMessage) (w : World S) : World S := { w with outbox := w.outbox ++ [message] }

/-! ## Random numbers and messages -/

theorem runOn_draw (setup : Setup) (w : World S) :
    (draw setup).runOn w = (.ok (setup.sources.draws w.drawn), w.drew 1) := rfl

/-- The random numbers that are taken next. -/
def nextDraws (setup : Setup) (w : World S) (count : Nat) : List Nat :=
  (List.range' w.drawn count).map setup.sources.draws

theorem runOn_drawMany (setup : Setup) (count : Nat) (w : World S) :
    (drawMany setup count).runOn w = (.ok (w.nextDraws setup count), w.drew count) := by
  induction count generalizing w with
  | zero => rfl
  | succ count ih =>
    simp only [drawMany, Action.runOn_bind, runOn_draw, ih, Action.runOn_pure, nextDraws, List.range'_succ,
      List.map_cons, drew, Nat.add_assoc, Nat.add_comm 1 count]

theorem runOn_send (setup : Setup) (m : TextMessage) (w : World S) :
    (send setup m).runOn w =
      match w.outage with
      | some o => (.error (.refused (.smsDelivery (setup.carrier.problem o))), w)
      | none => (.ok (), w.sent m) := by
  simp only [send, Action.runOn_bind, Action.runOn_get]
  cases w.outage <;> rfl

/-! ## The store -/

variable [AccountStore S]

/-- The state after an update of credentials. -/
@[simps clock sessions audit outbox outage drawn tokensTaken idsTaken]
def changed (id : String) (changes : List CredentialChange) (w : World S) : World S :=
  { w with store := (AccountStore.updateCredentials id changes).after w.store }

/-- The state after an account was given another phone number. -/
@[simps clock sessions audit outbox outage drawn tokensTaken idsTaken]
def renumbered (id : String) (phoneNumber : Option String) (w : World S) : World S :=
  { w with store := (AccountStore.updateProfile id [.phoneNumber phoneNumber]).after w.store }

/-- The state after a wrong password was counted. -/
@[simps clock sessions audit outbox outage drawn tokensTaken idsTaken]
def counted (id : String) (w : World S) : World S :=
  { w with store := (AccountStore.incrementAttempts id).after w.store }

/-- The state after an account was added. -/
@[simps clock sessions audit outbox outage drawn tokensTaken idsTaken]
def enrolled (a : Account) (w : World S) : World S :=
  { w with store := (AccountStore.create a).after w.store }

/-- The account that the store finds under an address. -/
def find? (w : World S) (identifier : String) : Option Account :=
  ((AccountStore.findByIdentifier identifier).outcome w.store).toOption.join

variable [LawfulStore S]

/-- The account under an identifier. -/
def account? (w : World S) (id : String) : Option Account := lookup w.store id

/-- The store is valid and the clock shows universal time. -/
structure Sound (w : World S) : Prop where
  store : Valid w.store
  clock : w.clock.offset = 0

variable {w v : World S} {id : String} {a : Account} {changes : List CredentialChange}

/-- Whatever keeps store and clock keeps the state sound. -/
theorem Sound.congr (h : w.Sound) (hs : v.store = w.store) (hc : v.clock = w.clock) : v.Sound :=
  ⟨hs ▸ h.store, hc ▸ h.clock⟩

theorem Sound.logged (h : w.Sound) (setup : Setup) (t : EventType) (p : Option String) (c : Option RequestContext)
    (e : Option SecurityError) (m : List (String × Json)) : (w.logged setup t p c e m).Sound := h.congr rfl rfl

theorem Sound.drew (h : w.Sound) (n : Nat) : (w.drew n).Sound := h.congr rfl rfl

theorem Sound.sent (h : w.Sound) (m : TextMessage) : (w.sent m).Sound := h.congr rfl rfl

theorem account?_of_store {s : S} (hs : w.store = s) : w.account? = lookup s := by
  subst hs
  rfl

theorem account?_congr (hs : v.store = w.store) : v.account? = w.account? := account?_of_store hs

@[simp] theorem account?_logged (setup : Setup) (t : EventType) (p : Option String) (c : Option RequestContext)
    (e : Option SecurityError) (m : List (String × Json)) : (w.logged setup t p c e m).account? = w.account? := rfl

@[simp] theorem account?_drew (n : Nat) : (w.drew n).account? = w.account? := rfl

@[simp] theorem account?_sent (m : TextMessage) : (w.sent m).account? = w.account? := rfl

section Part
variable {β : Type} {fresh : β} {F : Account → β}

/-- A part of an account, if the account is there. -/
def part? (F : Account → β) (w : World S) (id : String) : Option β := (w.account? id).map F

/-- A part of an account. An account that is not there counts as a fresh one. -/
def part (fresh : β) (F : Account → β) (w : World S) (id : String) : β := (w.part? F id).getD fresh

theorem part?_of_account? (ha : w.account? id = some a) : w.part? F id = some (F a) := by
  rw [part?, ha, Option.map_some]

theorem part?_congr (h : v.account? = w.account?) : v.part? F = w.part? F := by
  funext i
  rw [part?, h, part?]

/-- Where one account is replaced, its part is replaced. -/
theorem part?_of_update (h : v.account? = Function.update w.account? id (some a)) :
    v.part? F = Function.update (w.part? F) id (some (F a)) := by
  funext i
  rw [part?, h]
  by_cases hi : i = id
  · subst hi
    rw [Function.update_self, Function.update_self, Option.map_some]
  · rw [Function.update_of_ne hi, Function.update_of_ne hi, part?]

/-- An update that keeps the part of its account keeps it for all accounts. -/
theorem part?_of_update_same {a' : Account} (ha : w.account? id = some a)
    (h : v.account? = Function.update w.account? id (some a')) (hF : F a' = F a) : v.part? F = w.part? F := by
  rw [part?_of_update h, hF, ← part?_of_account? ha, Function.update_eq_self]

theorem part_of_account? (ha : w.account? id = some a) : w.part fresh F id = F a := by
  rw [part, part?_of_account? ha, Option.getD_some]

theorem part_of_missing (ha : w.account? id = none) : w.part fresh F id = fresh := by
  rw [part, part?, ha, Option.map_none, Option.getD_none]

theorem part_congr (h : v.account? = w.account?) : v.part fresh F = w.part fresh F := by
  funext i
  rw [part, part?_congr h, part]

theorem part_of_update (h : v.account? = Function.update w.account? id (some a)) :
    v.part fresh F = Function.update (w.part fresh F) id (F a) := by
  funext i
  rw [part, part?_of_update h]
  by_cases hi : i = id
  · subst hi
    rw [Function.update_self, Function.update_self, Option.getD_some]
  · rw [Function.update_of_ne hi, Function.update_of_ne hi, part]

end Part

theorem id_of_account? (h : w.Sound) (ha : w.account? id = some a) : a.id = id := id_of_lookup h.store ha

/-- The account that is found under an address is the one under its identifier. -/
theorem account?_of_find? (h : w.Sound) {identifier : String} (ha : w.find? identifier = some a) :
    w.account? a.id = some a := by
  obtain ⟨found, hr, hf⟩ := runOn_findByIdentifier identifier h.store
  unfold find? Action.outcome at ha
  rw [hr] at ha
  exact hf a ha

/-! ## Time and log -/

theorem runOn_utcNow (h : w.Sound) : utcNow.runOn w = (.ok w.clock, w) := by
  simp [utcNow, Action.runOn_bind, DateTime.toUtc?_of_offset h.clock]

theorem runOn_minutesFromNow (h : w.Sound) (minutes : Int) :
    (minutesFromNow minutes).runOn w = (Action.orFail .timeRange (w.clock.addMinutes? minutes)).runOn w := by
  simp [minutesFromNow, Action.runOn_bind, runOn_utcNow h]

theorem runOn_record (h : w.Sound) (setup : Setup) (t : EventType) (p : Option String)
    (c : Option RequestContext) (e : Option SecurityError) (m : List (String × Json)) :
    (record setup t p c e m).runOn w = (.ok (), w.logged setup t p c e m) := by
  unfold record logged
  split
  · simp [Action.runOn_bind, runOn_utcNow h]
  · rfl

theorem runOn_noteContext (h : w.Sound) (c : Option RequestContext) :
    (noteContext c).runOn w = (.ok (), w) := by
  unfold noteContext
  split
  · simp only [Action.runOn_bind, runOn_utcNow h, Action.runOn_pure]
  · rfl

/-! ## Accounts -/

theorem runOn_requireAccount (h : w.Sound) (id : String) :
    (requireAccount id).runOn w =
      match w.account? id with
      | some a => (.ok a, w)
      | none => (.error (.refused (.accountNotFound id)), w) := by
  simp only [requireAccount, onStore, Action.runOn_bind, Action.runOn_within, runOn_findById id h.store, account?]
  cases lookup w.store id <;> rfl

theorem runOn_find (h : w.Sound) (identifier : String) :
    (onStore (AccountStore.findByIdentifier identifier)).runOn w = (.ok (w.find? identifier), w) := by
  obtain ⟨found, hr, -⟩ := runOn_findByIdentifier identifier h.store
  simp [onStore, find?, Action.outcome, hr, Except.toOption]

section Changed
variable (h : w.Sound) (ha : w.account? id = some a) (hs : Storable (LawfulStore.Keeps S) changes)
include h ha hs

theorem runOn_changeCredentials :
    (changeCredentials id changes).runOn w = (.ok (), w.changed id changes) := by
  obtain ⟨t, hr, -, -⟩ := runOn_updateCredentials h.store ha hs
  simp [changeCredentials, onStore, changed, Action.after, hr]

theorem Sound.changed : (w.changed id changes).Sound := by
  obtain ⟨t, hr, hv, -⟩ := runOn_updateCredentials h.store ha hs
  exact ⟨by simpa [World.changed, Action.after, hr] using hv, h.clock⟩

/-- An update changes the credentials of its account, and no other account. -/
theorem account?_changed :
    (w.changed id changes).account? = Function.update w.account? id (some (a.changed changes)) := by
  obtain ⟨t, hr, -, hl⟩ := runOn_updateCredentials h.store ha hs
  rw [account?_of_store (show (w.changed id changes).store = t by simp [World.changed, Action.after, hr])]
  exact hl

theorem account?_changed_self : (w.changed id changes).account? id = some (a.changed changes) := by
  rw [account?_changed h ha hs, Function.update_self]

end Changed

theorem runOn_changeCredentials_missing (h : w.Sound) (ha : w.account? id = none)
    (hs : Storable (LawfulStore.Keeps S) changes) :
    (changeCredentials id changes).runOn w = (.error (.refused (.accountNotFound id)), w) := by
  simp [changeCredentials, onStore, runOn_updateCredentials_missing h.store ha hs]

section Renumbered
variable (h : w.Sound) (ha : w.account? id = some a) (phoneNumber : Option String)
include h ha

theorem runOn_renumber :
    (onStore (AccountStore.updateProfile id [.phoneNumber phoneNumber])).runOn w =
      (.ok (), w.renumbered id phoneNumber) := by
  obtain ⟨t, hr, -, -⟩ := runOn_updateProfile phoneNumber h.store ha
  simp [onStore, renumbered, Action.after, hr]

theorem Sound.renumbered : (w.renumbered id phoneNumber).Sound := by
  obtain ⟨t, hr, hv, -⟩ := runOn_updateProfile phoneNumber h.store ha
  exact ⟨by simpa [World.renumbered, Action.after, hr] using hv, h.clock⟩

theorem account?_renumbered :
    (w.renumbered id phoneNumber).account? = Function.update w.account? id (some (a.renumbered phoneNumber)) := by
  obtain ⟨t, hr, -, hl⟩ := runOn_updateProfile phoneNumber h.store ha
  rw [account?_of_store (show (w.renumbered id phoneNumber).store = t by simp [World.renumbered, Action.after, hr])]
  exact hl

end Renumbered

/-- Counting a wrong password gives the new count, which is stored. -/
theorem runOn_count (h : w.Sound) (ha : w.account? id = some a)
    (hg : a.credentials.gaps.loginAttempts = false) :
    ∃ n, (onStore (AccountStore.incrementAttempts id)).runOn w = (.ok n, w.counted id) ∧
      (w.counted id).Sound ∧
      (w.counted id).account? = Function.update w.account? id (some (a.counted n)) ∧
      n = countKept S (a.credentials.loginAttempts + 1) := by
  have hi := runOn_incrementAttempts h.store ha
  rw [hg, if_neg (by simp)] at hi
  obtain ⟨t, hr, hv, hl⟩ := hi
  have ht : (w.counted id).store = t := by simp [counted, Action.after, hr]
  refine ⟨_, by simp [onStore, counted, Action.after, hr], ⟨ht ▸ hv, h.clock⟩, ?_, rfl⟩
  rw [account?_of_store ht]
  exact hl

theorem runOn_count_gap (h : w.Sound) (ha : w.account? id = some a) (hg : a.credentials.gaps.loginAttempts) :
    (onStore (AccountStore.incrementAttempts id)).runOn w = (.error (.fault .wrongKind), w) := by
  have hi := runOn_incrementAttempts h.store ha
  rw [if_pos hg] at hi
  simp [onStore, hi]

/-- A new account is stored under its identifier, which no account had, or refused. -/
theorem runOn_enroll (h : w.Sound) {passwordHash : String} (hc : a.credentials = { passwordHash }) :
    (∃ e, (onStore (AccountStore.create a)).runOn w = (.error e, w)) ∨
    ((onStore (AccountStore.create a)).runOn w = (.ok (), w.enrolled a) ∧ (w.enrolled a).Sound ∧
      w.account? a.id = none ∧
      (w.enrolled a).account? = Function.update w.account? a.id (some { a with email := Text.fold a.email })) := by
  obtain ⟨e, hr⟩ | ⟨t, hr, hv, hn, hl⟩ := runOn_create h.store hc
  · exact .inl ⟨e, by simp [onStore, hr]⟩
  · have ht : (w.enrolled a).store = t := by simp [enrolled, Action.after, hr]
    refine .inr ⟨by simp [onStore, enrolled, Action.after, hr], ⟨ht ▸ hv, h.clock⟩, hn, ?_⟩
    rw [account?_of_store ht]
    exact hl

end World

end AccountSecurity
