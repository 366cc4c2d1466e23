import AccountSecurity.Proofs.Run
import AccountSecurity.Proofs.Store.EmailIndex
import AccountSecurity.Proofs.Store.Records

/-!
# What a login tells without the password

A caller who does not know the password gets the same answer from any two states in which the account that is asked for
stands alike. An address without an account stands like an account that is not locked and far from its limit.

* `CountingStore` : a store that counts the wrong passwords of an account that it finds; both stores are such;
* `Standing`, `standing` : what the answer depends on, the end of a lock or the limit of wrong passwords;
* `Excluded` : there is no account, or it is locked, or it rejects the password;
* `Login.endsWith_login` : the answer is a function of the standing, and no session is opened and no message sent;
* `Login.login_tells_nothing` : **so that two logins of the same standing end alike.**
-/

namespace AccountSecurity

/-! ## Counting in either store -/

/-- A store that counts a wrong password of an account that it finds, as far as it has room, and can then lock the
account. -/
class CountingStore (S : Type) [AccountStore S] extends RecordStore S where
  /-- The count that the store keeps. -/
  kept : Int → Int
  /-- Room runs out at one count, whatever is counted. -/
  le_kept_iff (limit n : Int) : limit ≤ kept n ↔ limit ≤ n ∧ limit ≤ kept limit
  runOn_incrementAttempts_found {s : S} {identifier : String} {a : Account} : Valid s →
    (AccountStore.findByIdentifier identifier).outcome s = .ok (some a) → a.credentials.gaps.loginAttempts = false →
    ∃ t, (AccountStore.incrementAttempts a.id).runOn s = (.ok (kept (a.credentials.loginAttempts + 1)), t) ∧
      ∀ lockEnd, ∃ u, (AccountStore.updateCredentials a.id [.lockedUntil (some lockEnd)]).runOn t = (.ok (), u)

instance : CountingStore MemoryStore where
  kept n := n
  le_kept_iff _ _ := by simp
  runOn_incrementAttempts_found {s identifier a} h hf hg := by
    obtain ⟨id, -, hget⟩ := MemoryStore.of_findByIdentifier hf
    obtain rfl := h id a hget
    have hr := MemoryStore.runOn_incrementAttempts a.id s
    rw [hget] at hr
    refine ⟨_, hr.trans (if_neg (by simp [hg])), fun lockEnd => ?_⟩
    have hu := MemoryStore.runOn_updateCredentials a.id [.lockedUntil (some lockEnd)]
      (s.stored a.id (a.counted (a.credentials.loginAttempts + 1)))
    rw [MemoryStore.accounts_stored, if_pos rfl] at hu
    exact ⟨_, hu⟩

namespace RelationalStore
variable {s : RelationalStore} {a : Account}

/-- An account that is read is that of the row that was found. -/
theorem exists_row_of_read {found : Option Row} (h : (read found).outcome s = .ok (some a)) :
    ∃ r, found = some r ∧ r.account = .ok a := by
  cases found with
  | none => cases h
  | some r =>
    refine ⟨r, rfl, ?_⟩
    unfold read at h
    dsimp only at h
    cases hr : r.account with
    | error f =>
      rw [hr] at h
      cases h
    | ok b =>
      rw [hr] at h
      cases h
      rfl

instance : CountingStore RelationalStore where
  kept n := min n columnBound
  le_kept_iff _ _ := by simp
  runOn_incrementAttempts_found {s identifier a} h hf _ := by
    obtain ⟨r, hfound, hra⟩ := exists_row_of_read
      ((congrArg Prod.fst (runOn_findByIdentifier identifier s)).symm.trans hf)
    have hid : a.id = r.id := by
      obtain ⟨codes, -, rfl⟩ := Row.account_eq_ok hra
      rfl
    have hrow : s.rowOf? a.id = some r := hid ▸ rowOf?_of_mem h (List.mem_of_find?_eq_some hfound)
    have hr := runOn_incrementAttempts a.id s
    rw [hrow] at hr
    rw [Row.loginAttempts_of_account hra]
    refine ⟨_, hr, fun lockEnd => ?_⟩
    have hcounted (attempts : Int) :
        (s.replaced a.id fun r => { r with loginAttempts := attempts }).rowOf? a.id =
          some { r with loginAttempts := attempts } := by
      have hsame (r' : Row) : ({ r' with loginAttempts := attempts } : Row).id = r'.id := rfl
      rw [rowOf?_replaced hsame, if_pos rfl, hrow]
      rfl
    have hu := runOn_updateCredentials a.id [.lockedUntil (some lockEnd)]
      (s.replaced a.id fun r' => { r' with loginAttempts := min (r.loginAttempts + 1) columnBound })
    rw [hcounted] at hu
    exact ⟨_, hu⟩

end RelationalStore

/-! ## What the answer depends on -/

/-- How an account stands for a caller without the password. -/
inductive Standing where
  /-- Locked until a point in time. -/
  | locked (lockEnd : Option Int)
  /-- Not locked. One more wrong password reaches the limit, or does not. -/
  | unlocked (atLimit : Bool)
deriving DecidableEq

/-- How the account that was found stands. Where there is none, it is not locked and not at its limit. -/
def standing (policy : LoginPolicy) (now : DateTime) : Option Account → Standing
  | none => .unlocked false
  | some a =>
    if a.credentials.isLocked now then .locked (a.credentials.lockedUntil.map DateTime.instant)
    else .unlocked (policy.maxAttempts ≤ a.credentials.loginAttempts + 1)

/-- There is no account, or it is locked, or its count has a value and it rejects the password. -/
def Excluded (now : DateTime) (password : String) (found : Option Account) : Prop :=
  ∀ a ∈ found, a.credentials.isLocked now ∨
    Hasher.verify a.credentials.passwordHash password = .ok false ∧ a.credentials.gaps.loginAttempts = false

/-- The answer to a caller without the password. -/
def excludedAnswer (S : Type) [AccountStore S] [CountingStore S] (policy : LoginPolicy) (now : DateTime) :
    Standing → Failure
  | .locked lockEnd => .refused (.accountLocked
      (lockEnd.elim 0 fun t => if now.instant < t then Credentials.minutesRoundedUp (t - now.instant).toNat else 0))
  | .unlocked atLimit =>
    if atLimit ∧ policy.maxAttempts ≤ CountingStore.kept S policy.maxAttempts then
      match now.addMinutes? policy.lockMinutes with
      | some _ => .refused (.tooManyAttempts policy.lockMinutes)
      | none => .fault .timeRange
    else .refused .invalidCredentials

namespace Login
open World
variable {S : Type} {w : World S} {now : DateTime} {α : Type}

/-- The state over another store. -/
@[simps] def withStore (w : World S) (s : S) : World S := { w with store := s }

/-- The operation ends with a failure and changes nothing but the store and the log. -/
def EndsWith (x : Op S α) (w : World S) (f : Failure) : Prop :=
  ∃ store audit, x.runOn w = (.error f, { w with store, audit })

theorem runOn_utcNow_of_clock (h : w.clock.toUtc? = some now) : utcNow.runOn w = (.ok now, w) := by
  unfold utcNow
  rw [Action.runOn_bind_of_ok (Action.runOn_get w), h]
  rfl

theorem runOn_minutesFromNow_of_clock (h : w.clock.toUtc? = some now) (minutes : Int) :
    (minutesFromNow minutes).runOn w = (Action.orFail .timeRange (now.addMinutes? minutes)).runOn w := by
  unfold minutesFromNow
  rw [Action.runOn_bind_of_ok (runOn_utcNow_of_clock h)]

theorem endsWith_refuse (h : w.clock.toUtc? = some now) (setup : Setup) (t : EventType) (p : Option String)
    (c : Option RequestContext) (e : SecurityError) (m : List (String × Json)) :
    EndsWith (refuse setup t p c e m : Op S α) w (.refused e) := by
  have hrecord : ∃ audit, (record setup t p c (some e) m).runOn w = (.ok (), { w with audit }) := by
    unfold record
    split
    · rw [Action.runOn_bind_of_ok (runOn_utcNow_of_clock h)]
      exact ⟨_, rfl⟩
    · exact ⟨_, rfl⟩
  obtain ⟨audit, hr⟩ := hrecord
  exact ⟨w.store, audit, Action.runOn_bind_of_ok hr⟩

namespace EndsWith
variable {β : Type} {x : Op S β} {y : β → Op S α} {b : β} {f : Failure}

theorem of_error (hx : x.runOn w = (.error f, w)) : EndsWith (x >>= y) w f :=
  ⟨w.store, w.audit, Action.runOn_bind_of_error hx⟩

/-- First something that succeeds and leaves the state as it is. -/
theorem after_same (hx : x.runOn w = (.ok b, w)) (hy : EndsWith (y b) w f) : EndsWith (x >>= y) w f := by
  obtain ⟨store, audit, hr⟩ := hy
  exact ⟨store, audit, (Action.runOn_bind_of_ok hx).trans hr⟩

/-- First something of the store that succeeds. -/
theorem after_onStore {x : Action S β} {s : S} (hx : x.runOn w.store = (.ok b, s))
    (hy : EndsWith (y b) (withStore w s) f) : EndsWith (onStore x >>= y) w f := by
  obtain ⟨store, audit, hr⟩ := hy
  have hstore : (onStore x).runOn w = (.ok b, withStore w s) := by
    unfold onStore
    rw [Action.runOn_within, hx]
    rfl
  exact ⟨store, audit, (Action.runOn_bind_of_ok hstore).trans hr⟩

end EndsWith

variable [AccountStore S] [CountingStore S] {setup : Setup} {identifier password : String}
open CountingStore

/-- A wrong password of an account that was found. -/
theorem endsWith_countFailure (hv : RecordStore.Valid w.store) (hclock : w.clock.toUtc? = some now) {a : Account}
    (hf : (AccountStore.findByIdentifier identifier).outcome w.store = .ok (some a))
    (hg : a.credentials.gaps.loginAttempts = false) (c : Option RequestContext) :
    EndsWith (countFailure setup a c : Op S α) w (excludedAnswer S setup.policy now
      (.unlocked (setup.policy.maxAttempts ≤ a.credentials.loginAttempts + 1))) := by
  obtain ⟨t, hcount, hlock⟩ := runOn_incrementAttempts_found hv hf hg
  have hclock' : (withStore w t).clock.toUtc? = some now := hclock
  have hminutes := runOn_minutesFromNow_of_clock hclock' setup.policy.lockMinutes
  have hlimit := le_kept_iff (S := S) setup.policy.maxAttempts (a.credentials.loginAttempts + 1)
  unfold countFailure excludedAnswer
  refine .after_onStore hcount ?_
  dsimp only
  by_cases hm : setup.policy.maxAttempts ≤ kept S (a.credentials.loginAttempts + 1)
  · rw [if_pos hm, if_pos (by simpa using hlimit.1 hm)]
    cases ht : now.addMinutes? setup.policy.lockMinutes with
    | none => exact .of_error (by rw [hminutes, ht]; rfl)
    | some lockEnd =>
      obtain ⟨u, hu⟩ := hlock lockEnd
      refine .after_same (b := lockEnd) (by rw [hminutes, ht]; rfl) (.after_onStore hu ?_)
      exact endsWith_refuse (w := withStore (withStore w t) u) hclock ..
  · rw [if_neg hm, if_neg (by simpa using mt hlimit.2 hm)]
    exact endsWith_refuse hclock' ..

theorem remainingLockMinutes_eq (c : Credentials) (now : DateTime) :
    c.remainingLockMinutes now = (c.lockedUntil.map DateTime.instant).elim 0 fun t =>
      if now.instant < t then Credentials.minutesRoundedUp (t - now.instant).toNat else 0 := by
  unfold Credentials.remainingLockMinutes DateTime.before
  cases c.lockedUntil with
  | none => rfl
  | some t => simp

/-- A login without the password ends with an answer that depends on nothing but how the account stands. -/
theorem endsWith_login (hv : RecordStore.Valid w.store) (hclock : w.clock.toUtc? = some now) {found : Option Account}
    (hf : (AccountStore.findByIdentifier identifier).outcome w.store = .ok found) (hx : Excluded now password found)
    (c : Option RequestContext) :
    EndsWith (login setup identifier password c) w
      (excludedAnswer S setup.policy now (standing setup.policy now found)) := by
  have hfind : (AccountStore.findByIdentifier identifier).runOn w.store = (.ok found, w.store) := by
    obtain ⟨r, hr, -⟩ := RecordStore.runOn_findByIdentifier identifier hv
    unfold Action.outcome at hf
    rw [hr] at hf
    rw [hr, ← hf]
  unfold login
  refine .after_onStore hfind ?_
  cases found with
  | none =>
    have hanswer : excludedAnswer S setup.policy now (standing setup.policy now none) =
        .refused .invalidCredentials := by
      simp [standing, excludedAnswer]
    rw [hanswer]
    exact endsWith_refuse hclock ..
  | some a =>
    dsimp only
    refine .after_same (runOn_utcNow_of_clock hclock) ?_
    unfold standing
    dsimp only
    by_cases hl : a.credentials.isLocked now
    · rw [if_pos hl, if_pos hl, remainingLockMinutes_eq]
      exact endsWith_refuse hclock ..
    · rw [if_neg hl, if_neg hl]
      obtain ⟨hreject, hg⟩ := (hx a rfl).resolve_left hl
      refine .after_same (b := false) (by rw [Action.runOn_ofExcept, hreject]) ?_
      rw [if_neg Bool.false_ne_true]
      exact endsWith_countFailure hv hclock hf hg c

/-- **A login tells nothing to a caller without the password.** In any two states of a store, with the same time and
the same policy, let any identifiers be looked for, and let each account that is found be locked or reject the password
that is given. If the two stand alike, as locked until the same time or by whether one more wrong password reaches the
limit, both logins end with the same failure, open no session and send no message. -/
theorem login_tells_nothing {setup₁ setup₂ : Setup} (hpolicy : setup₁.policy = setup₂.policy) {w₁ w₂ : World S}
    (hv₁ : RecordStore.Valid w₁.store) (hv₂ : RecordStore.Valid w₂.store) (hclock₁ : w₁.clock.toUtc? = some now)
    (hclock₂ : w₂.clock.toUtc? = some now) {x₁ x₂ p₁ p₂ : String} {c₁ c₂ : Option RequestContext}
    {found₁ found₂ : Option Account} (hf₁ : (AccountStore.findByIdentifier x₁).outcome w₁.store = .ok found₁)
    (hf₂ : (AccountStore.findByIdentifier x₂).outcome w₂.store = .ok found₂) (hx₁ : Excluded now p₁ found₁)
    (hx₂ : Excluded now p₂ found₂) (hs : standing setup₁.policy now found₁ = standing setup₂.policy now found₂) :
    ∃ f, (login setup₁ x₁ p₁ c₁).outcome w₁ = .error f ∧ (login setup₂ x₂ p₂ c₂).outcome w₂ = .error f ∧
      ((login setup₁ x₁ p₁ c₁).after w₁).sessions = w₁.sessions ∧
      ((login setup₂ x₂ p₂ c₂).after w₂).sessions = w₂.sessions ∧
      ((login setup₁ x₁ p₁ c₁).after w₁).outbox = w₁.outbox ∧
      ((login setup₂ x₂ p₂ c₂).after w₂).outbox = w₂.outbox := by
  obtain ⟨store₁, audit₁, hr₁⟩ : EndsWith (login setup₁ x₁ p₁ c₁) w₁ _ := endsWith_login hv₁ hclock₁ hf₁ hx₁ c₁
  obtain ⟨store₂, audit₂, hr₂⟩ : EndsWith (login setup₂ x₂ p₂ c₂) w₂ _ := endsWith_login hv₂ hclock₂ hf₂ hx₂ c₂
  rw [← hs, ← hpolicy] at hr₂
  unfold Action.outcome Action.after
  rw [hr₁, hr₂]
  exact ⟨_, rfl, rfl, rfl, rfl, rfl, rfl⟩

/-- An address that no account has, and the address of an account with a number and a confirmed address. -/
theorem login_tells_nothing_sample :
    ∃ f, (login Setup.sample "nobody@example.org" "password" none).outcome World.sample = .error f ∧
      (login Setup.sample "user@example.org" Account.overlongPassword none).outcome World.sample = .error f ∧
      ((login Setup.sample "nobody@example.org" "password" none).after World.sample).sessions = World.sample.sessions ∧
      ((login Setup.sample "user@example.org" Account.overlongPassword none).after World.sample).sessions =
        World.sample.sessions ∧
      ((login Setup.sample "nobody@example.org" "password" none).after World.sample).outbox = World.sample.outbox ∧
      ((login Setup.sample "user@example.org" Account.overlongPassword none).after World.sample).outbox =
        World.sample.outbox := by
  have hclock : World.sample.clock.toUtc? = some .epoch := DateTime.toUtc?_of_offset rfl
  have hvalid : RecordStore.Valid World.sample.store := World.sound_sample.store.keyed
  have hnobody : Excluded .epoch "password" none := fun a ha => nomatch ha
  have huser : Excluded .epoch Account.overlongPassword (some .sample) := by
    rintro a ⟨⟩
    exact .inr ⟨Account.verify_overlongPassword, rfl⟩
  have hfind : (AccountStore.findByIdentifier "nobody@example.org").outcome World.sample.store = .ok none := rfl
  have hfind' : (AccountStore.findByIdentifier "user@example.org").outcome World.sample.store =
      .ok (some .sample) := rfl
  exact login_tells_nothing rfl hvalid hvalid hclock hclock hfind hfind' hnobody huser (by decide)

end Login

end AccountSecurity
