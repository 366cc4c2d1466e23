import AccountSecurity.Proofs.Run
import Mathlib.Data.List.Induction

/-!
# The lock against guessing

* `Account.guarding` : the part of the credentials in which wrong passwords are counted;
* `Entry.compared?`, `rejections` : the logins of an account whose password was compared, and the times of
  those that were rejected since the last accepted one;
* `Guarded` : the invariant, which ties the count and the lock of an account to these times;
* `lockout_bounds_guessing` : **how often a password can be guessed**, with `Step.guesses`, a run that reaches the
  lock and its end.
-/

namespace AccountSecurity
open World

/-- The hash, the count of wrong passwords and the lock. -/
structure Guarding where
  passwordHash : String
  attempts : Int
  lockedUntil : Option DateTime
  gap : Bool

def Account.guarding (a : Account) : Guarding :=
  ⟨a.credentials.passwordHash, a.credentials.loginAttempts, a.credentials.lockedUntil, a.credentials.gaps.loginAttempts⟩

theorem Account.guarding_sample :
    Account.sample.guarding = ⟨Account.sample.credentials.passwordHash, 0, none, false⟩ := by
  rw [Account.guarding, Guarding.mk.injEq]
  exact ⟨rfl, rfl, rfl, rfl⟩

/-- Only logins write to the hash, the count and the lock. -/
theorem Write.guarding_eq {setup : Setup} {now : DateTime} {op : Operation} {a a' : Account}
    (h : Write setup now op a a') (hop : ∀ identifier password c, op ≠ .login identifier password c) :
    a'.guarding = a.guarding := by
  cases h with
  | rejected n => exact absurd rfl (hop _ _ _)
  | locked n t => exact absurd rfl (hop _ _ _)
  | unlockable n => exact absurd rfl (hop _ _ _)
  | accepted newHash => exact absurd rfl (hop _ _ _)
  | challenged code t => exact absurd rfl (hop _ _ _)
  | verified hk =>
    rename_i purpose
    cases purpose <;> rfl
  | _ => rfl

variable {S : Type} [AccountStore S]

/-! ## Logins and their passwords -/

/-- What the comparison of the password gave at a login of an account, if there was one. -/
def Entry.compared? (id : String) (e : Entry S) : Option Bool :=
  match e.loginOf? with
  | some (a, password) =>
    if a.id = id ∧ a.credentials.isLocked e.before.clock = false then
      (Hasher.verify a.credentials.passwordHash password).toOption
    else none
  | none => none

/-- The times of rejected passwords after one more entry. -/
def rejectionsNext (id : String) (ts : List DateTime) (e : Entry S) : List DateTime :=
  match e.compared? id with
  | some true => []
  | some false => ts ++ [e.before.clock]
  | none => ts

theorem rejectionsNext_of_none {id : String} {ts : List DateTime} {e : Entry S} (h : e.compared? id = none) :
    rejectionsNext id ts e = ts := by rw [rejectionsNext, h]

theorem rejectionsNext_of_false {id : String} {ts : List DateTime} {e : Entry S} (h : e.compared? id = some false) :
    rejectionsNext id ts e = ts ++ [e.before.clock] := by rw [rejectionsNext, h]

/-- The times of the logins of an account whose password was rejected since the last accepted one. -/
def rejections (id : String) (es : List (Entry S)) : List DateTime := es.foldl (rejectionsNext id) []

theorem rejections_concat (id : String) (es : List (Entry S)) (e : Entry S) :
    rejections id (es ++ [e]) = rejectionsNext id (rejections id es) e := by
  rw [rejections, List.foldl_append]
  rfl

/-- The length of a lock, in microseconds. -/
def lockSpan (setup : Setup) : Int := setup.policy.lockMinutes * DateTime.perMinute

/-- The lock after rejected passwords at some times. -/
def lockAfter (setup : Setup) (ts : List DateTime) : Option DateTime :=
  if setup.policy.maxAttempts ≤ ts.length then ts.getLast?.bind (·.addMinutes? setup.policy.lockMinutes) else none

/-- The time lies between a rejected password, from the limit on, and the end of the lock that it led to. -/
def InWindow (setup : Setup) (ts : List DateTime) (now : DateTime) : Prop :=
  ∃ (i : Nat) (t : DateTime), setup.policy.maxAttempts ≤ i + 1 ∧ ts[i]? = some t ∧ t.instant ≤ now.instant ∧
    now.instant < t.instant + lockSpan setup

variable [LawfulStore S] {setup : Setup} {w v : World S} {id : String} {a : Account}

omit [LawfulStore S] in
/-- A login compares the password where it finds the account unlocked. -/
theorem Entry.compared?_login {identifier password : String} (hf : v.find? identifier = some a)
    (hl : a.credentials.isLocked v.clock = false) (c : Option RequestContext) :
    (Entry.of setup (.call (.login identifier password c)) v).compared? a.id =
      (Hasher.verify a.credentials.passwordHash password).toOption := by
  simp [compared?, loginOf?, hf, hl]

/-! ## What a login does to the count and the lock -/

/-- An accepted password leaves no count and no lock. -/
theorem guarding_acceptance (now : DateTime) (newHash : Option String) (ha : 0 ≤ a.credentials.loginAttempts)
    (hg : a.credentials.gaps.loginAttempts = false) :
    (a.changed (Login.acceptance now a.credentials newHash)).guarding =
      ⟨newHash.getD a.credentials.passwordHash, 0, none, false⟩ := by
  unfold Login.acceptance
  by_cases hc : 0 < a.credentials.loginAttempts ∨ a.credentials.lockedUntil.isSome
  · rw [if_pos hc]
    cases newHash <;> rfl
  · rw [if_neg hc]
    rw [not_or] at hc
    have h0 : a.credentials.loginAttempts = 0 := by omega
    have hl : a.credentials.lockedUntil = none := by simpa using hc.2
    cases newHash with
    | none =>
      show Guarding.mk a.credentials.passwordHash a.credentials.loginAttempts a.credentials.lockedUntil
        a.credentials.gaps.loginAttempts = _
      rw [h0, hl, hg]
      rfl
    | some h =>
      show Guarding.mk h a.credentials.loginAttempts a.credentials.lockedUntil a.credentials.gaps.loginAttempts = _
      rw [h0, hl, hg]
      rfl

/-- Issuing a code leaves count and lock alone. -/
theorem guarding_issue (setup : Setup) (h : v.Sound) (ha : v.account? id = some a) (config : OtpConfig)
    (purpose : OtpPurpose) (number : Option String) :
    ∃ a', ((OtpChallenge.issue setup config id purpose number).runOn v).2.account? =
        Function.update v.account? id (some a') ∧ a'.guarding = a.guarding := by
  have hends := OtpChallenge.ends_issue h setup config id purpose number
  generalize (OtpChallenge.issue setup config id purpose number).runOn v = r at hends ⊢
  have hself : v.account? = Function.update v.account? id (some a) := by
    rw [← ha, Function.update_eq_self]
  cases hends with
  | undelivered hs ho =>
    cases hs.account.symm.trans ha
    exact ⟨_, hs.account?_stored h _, rfl⟩
  | sent hs hd ho =>
    cases hs.account.symm.trans ha
    exact ⟨_, hs.account?_stored h _, rfl⟩
  | _ => exact ⟨a, hself, rfl⟩

/-- What follows an accepted password leaves count and lock alone. -/
theorem guarding_proceed (setup : Setup) (h : v.Sound) (b : Account) (ha : v.account? b.id = some a)
    (c : Option RequestContext) :
    ∃ a', ((Login.proceed setup b c).runOn v).2.account? = Function.update v.account? b.id (some a') ∧
      a'.guarding = a.guarding := by
  have hself : v.account? = Function.update v.account? b.id (some a) := by
    rw [← ha, Function.update_eq_self]
  rw [Login.runOn_proceed h]
  split
  · exact ⟨a, hself, rfl⟩
  · split
    · cases OtpChallenge.nonempty? b.phoneNumber with
      | none => exact ⟨a, hself, rfl⟩
      | some n => exact guarding_issue setup h ha setup.otp .loginChallenge (some n)
    · rw [Login.runOn_complete h]
      split
      · exact ⟨a, hself, rfl⟩
      · exact ⟨a, hself, rfl⟩

section Login
variable {identifier password : String} {c : Option RequestContext}
variable (h : v.Sound) (hf : v.find? identifier = some a)
include h hf

/-- A locked account compares no password. -/
theorem login_of_locked (hl : a.credentials.isLocked v.clock) :
    ∃ m, ((Operation.login identifier password c).run setup v).1 = .error (.refused (.accountLocked m)) ∧
      ((Operation.login identifier password c).run setup v).2.store = v.store ∧
      ((Operation.login identifier password c).run setup v).2.sessions = v.sessions ∧
      ((Operation.login identifier password c).run setup v).2.outbox = v.outbox := by
  rw [Operation.run_login setup h, Login.runOn_login_locked h hf hl]
  exact ⟨_, rfl, rfl, rfl, rfl⟩

/-- A rejected password is counted, and locks the account from the limit on. -/
theorem login_of_rejected (hl : a.credentials.isLocked v.clock = false)
    (hv : Hasher.verify a.credentials.passwordHash password = .ok false)
    (hg : a.credentials.gaps.loginAttempts = false) (hn : LawfulStore.Counts S (a.credentials.loginAttempts + 1))
    {t : DateTime} (ht : v.clock.addMinutes? setup.policy.lockMinutes = some t) :
    ((Operation.login identifier password c).run setup v).1 =
      (if setup.policy.maxAttempts ≤ a.credentials.loginAttempts + 1 then
        .error (.refused (.tooManyAttempts setup.policy.lockMinutes))
      else .error (.refused .invalidCredentials)) ∧
    ∃ a', ((Operation.login identifier password c).run setup v).2.account? =
        Function.update v.account? a.id (some a') ∧
      a'.guarding = ⟨a.credentials.passwordHash, a.credentials.loginAttempts + 1,
        if setup.policy.maxAttempts ≤ a.credentials.loginAttempts + 1 then some t else a.credentials.lockedUntil,
        false⟩ := by
  have ha := account?_of_find? h hf
  obtain ⟨n, hcount, hs, hacc, hr⟩ := Login.runOn_countFailure Login.Outcome h setup ha hg c
  obtain rfl : n = a.credentials.loginAttempts + 1 := hcount.trans (LawfulStore.countKept_of_counts hn)
  have hc : Login.Compared identifier password v a false := ⟨hf, hl, hv, hg⟩
  rw [Operation.run_login setup h, hc.runOn_login h, hr, ht]
  dsimp only
  by_cases hm : setup.policy.maxAttempts ≤ a.credentials.loginAttempts + 1
  · rw [if_pos hm, if_pos hm, if_pos hm]
    have hk : Storable (LawfulStore.Keeps S) _ := Login.storable_lock ((DateTime.offset_of_addMinutes ht).trans h.clock)
    have ha' : (v.counted a.id).account? a.id = some (a.counted (a.credentials.loginAttempts + 1)) := by
      rw [hacc, Function.update_self]
    refine ⟨rfl, (a.counted (a.credentials.loginAttempts + 1)).changed [.lockedUntil (some t)],
      (account?_changed hs ha' hk).trans ?_, ?_⟩
    · rw [hacc, Function.update_idem]
    · show Guarding.mk _ _ _ a.credentials.gaps.loginAttempts = _
      rw [hg]
      rfl
  · rw [if_neg hm, if_neg hm, if_neg hm]
    refine ⟨rfl, _, hacc, ?_⟩
    show Guarding.mk _ _ _ a.credentials.gaps.loginAttempts = _
    rw [hg]
    rfl

/-- An accepted password leaves no count and no lock, whatever follows. -/
theorem login_of_accepted (hl : a.credentials.isLocked v.clock = false)
    (hv : Hasher.verify a.credentials.passwordHash password = .ok true)
    (hg : a.credentials.gaps.loginAttempts = false) (h0 : 0 ≤ a.credentials.loginAttempts)
    (hu : setup.hasher.IsUsable setup.sources.salts) (hs : Hasher.IsHash a.credentials.passwordHash) :
    ∃ a' newHash, ((Operation.login identifier password c).run setup v).2.account? =
        Function.update v.account? a.id (some a') ∧
      a'.guarding = ⟨newHash, 0, none, false⟩ ∧ Hasher.IsHash newHash := by
  have ha := account?_of_find? h hf
  obtain ⟨newHash, hn, hnew⟩ := Login.upgradedHash_of_isHash hu hs password
  have hk : Storable (LawfulStore.Keeps S) _ := Login.storable_loginAcceptance h.clock a.credentials newHash
  have hacc := account?_changed h ha hk
  have ha' : (v.changed a.id (Login.acceptance v.clock a.credentials newHash)).account? a.id =
      some (a.changed (Login.acceptance v.clock a.credentials newHash)) := by
    rw [hacc, Function.update_self]
  obtain ⟨a', hr, hg'⟩ := guarding_proceed setup (h.changed ha hk) a ha' c
  rw [Operation.run_login setup h, Login.runOn_login h, hf]
  dsimp only
  rw [if_neg (by simp [hl]), hv]
  dsimp only
  rw [if_neg (by simp [hg]), hn]
  refine ⟨a', newHash.getD a.credentials.passwordHash, hr.trans ?_, ?_, ?_⟩
  · rw [hacc, Function.update_idem]
  · rw [hg', guarding_acceptance v.clock newHash h0 hg]
  · cases newHash with
    | none => exact hs
    | some x => exact hnew x rfl

/-- A login writes to no account but the one that it found. -/
theorem account?_login_of_ne {i : String} (hi : i ≠ a.id) :
    ((Operation.login identifier password c).run setup v).2.account? i = v.account? i := by
  have hends := Login.ends_login setup h identifier password c
  rw [Operation.run_login setup h]
  generalize (Login.login setup identifier password c).runOn v = r at hends ⊢
  have hsame : ∀ {b}, v.find? identifier = some b → i ≠ b.id := fun hb => by
    cases hb.symm.trans hf
    exact hi
  have hmissed : ∀ {b n}, Login.Missed identifier password v b n → (v.counted b.id).account? i = v.account? i :=
    fun hc => by rw [hc.account, Function.update_of_ne (hsame hc.found)]
  have hadmitted : ∀ {b newHash}, Login.Admitted setup identifier password v b newHash →
      (Login.admitted b newHash v).account? i = v.account? i :=
    fun hc => by rw [hc.account?_admitted h, Function.update_of_ne (hsame hc.found)]
  cases hends with
  | unknown hb => rfl
  | locked hb hl => rfl
  | broken hb hl hx => rfl
  | rejected hc hm => exact hmissed hc
  | lockedOut hc hm ht =>
    have hlocked := (hc.account?_lockedOut ((DateTime.offset_of_addMinutes ht).trans h.clock)).2
    exact (congrFun hlocked i).trans (Function.update_of_ne (hsame hc.found) ..)
  | endless hc hm ht => exact hmissed hc
  | unverified hc he => exact hadmitted hc
  | numberless hc he hs hn => exact hadmitted hc
  | @challenged b newHash n hc he hs hn =>
    obtain ⟨b', hr, -⟩ := guarding_issue setup (hc.sound h)
      (by rw [hc.account?_admitted h, Function.update_self]) setup.otp .loginChallenge (some n)
    exact ((congrFun hr i).trans (Function.update_of_ne (hsame hc.found) ..)).trans (hadmitted hc)
  | @opened b newHash hc he hs =>
    rw [Login.runOn_complete (hc.sound h)]
    split
    · exact hadmitted hc
    · exact hadmitted hc

end Login

/-! ## The invariant -/

/-- Count and lock of an account are those of the rejected passwords at some times, which lie behind and, from the
limit on, apart. -/
structure Guarded (setup : Setup) (id : String) (ts : List DateTime) (v : World S) : Prop where
  account : ∃ a, v.account? id = some a ∧ Hasher.IsHash a.credentials.passwordHash ∧
    a.guarding = ⟨a.credentials.passwordHash, ts.length, lockAfter setup ts, false⟩
  past : ∀ t ∈ ts, t.instant ≤ v.clock.instant
  shown : ∀ t ∈ ts, (t.addMinutes? setup.policy.lockMinutes).isSome
  sorted : ∀ (i : Nat) (t u : DateTime), ts[i]? = some t → ts[i + 1]? = some u → t.instant ≤ u.instant
  apart : ∀ (i : Nat) (t u : DateTime), setup.policy.maxAttempts ≤ i + 1 → ts[i]? = some t → ts[i + 1]? = some u →
    t.instant + lockSpan setup ≤ u.instant

theorem lockAfter_concat (setup : Setup) (ts : List DateTime) (t : DateTime) :
    lockAfter setup (ts ++ [t]) =
      if setup.policy.maxAttempts ≤ (ts.length : Int) + 1 then t.addMinutes? setup.policy.lockMinutes else none := by
  rw [lockAfter, List.getLast?_concat, List.length_append, List.length_singleton, Nat.cast_add, Nat.cast_one]
  rfl

/-- Below the limit there is no lock yet. -/
theorem lockAfter_of_lt {ts : List DateTime} (h : (ts.length : Int) < setup.policy.maxAttempts) :
    lockAfter setup ts = none := if_neg (by omega)

/-- A lock lasts for its length from the last rejected password on. -/
theorem isLocked_iff {ts : List DateTime} (hshown : ∀ t ∈ ts, (t.addMinutes? setup.policy.lockMinutes).isSome)
    (ha : a.credentials.lockedUntil = lockAfter setup ts) (now : DateTime) :
    a.credentials.isLocked now ↔ setup.policy.maxAttempts ≤ ts.length ∧
      ∃ t, ts.getLast? = some t ∧ now.instant < t.instant + lockSpan setup := by
  unfold Credentials.isLocked
  rw [ha, lockAfter]
  by_cases hm : setup.policy.maxAttempts ≤ ts.length
  · rw [if_pos hm]
    cases hl : ts.getLast? with
    | none => simp
    | some t =>
      obtain ⟨u, hu⟩ := Option.isSome_iff_exists.1 (hshown t (List.mem_of_getLast? hl))
      rw [Option.bind_some, hu]
      show now.before u = true ↔ _
      rw [DateTime.before, decide_eq_true_eq, DateTime.instant_of_addMinutes hu]
      exact ⟨fun hlt => ⟨hm, t, rfl, hlt⟩, fun ⟨_, t', ht', hlt⟩ => by cases ht'; exact hlt⟩
  · rw [if_neg hm]
    simp [hm]

namespace Guarded
variable {ts : List DateTime} (hg : Guarded setup id ts v)
include hg

/-- A window in which logins are locked out began with the last rejected password. -/
theorem last_of_window {i : Nat} {t : DateTime} (hi : setup.policy.maxAttempts ≤ i + 1) (ht : ts[i]? = some t)
    (hnow : v.clock.instant < t.instant + lockSpan setup) :
    ts.getLast? = some t ∧ setup.policy.maxAttempts ≤ ts.length := by
  have hlt : i < ts.length := (List.getElem?_eq_some_iff.1 ht).1
  cases hnext : ts[i + 1]? with
  | some u =>
    have hu := hg.past u (List.mem_of_getElem? hnext)
    have := hg.apart i t u hi ht hnext
    omega
  | none =>
    have hlen : ts.length = i + 1 := by
      have := List.getElem?_eq_none_iff.1 hnext
      omega
    refine ⟨?_, by omega⟩
    rw [List.getLast?_eq_getElem?, hlen]
    exact ht

/-- The invariant does not look at anything but the account and the clock. -/
theorem congr {u : World S} {a a' : Account} (ha : v.account? id = some a) (ha' : u.account? id = some a')
    (heq : a'.guarding = a.guarding) (hc : v.clock.instant ≤ u.clock.instant) : Guarded setup id ts u := by
  obtain ⟨b, hb, hs, hgu⟩ := hg.account
  rw [ha] at hb
  cases hb
  have hp : a'.credentials.passwordHash = a.credentials.passwordHash := congrArg Guarding.passwordHash heq
  refine ⟨⟨a', ha', hp ▸ hs, ?_⟩, fun t ht => (hg.past t ht).trans hc, hg.shown, hg.sorted, hg.apart⟩
  rw [heq, hgu, hp]

/-- The found account of a login of the guarded account. -/
theorem fields (ha : v.account? id = some a) : Hasher.IsHash a.credentials.passwordHash ∧
    a.credentials.loginAttempts = ts.length ∧ a.credentials.lockedUntil = lockAfter setup ts ∧
    a.credentials.gaps.loginAttempts = false := by
  obtain ⟨b, hb, hs, hgu⟩ := hg.account
  rw [ha] at hb
  cases hb
  exact ⟨hs, congrArg Guarding.attempts hgu, congrArg Guarding.lockedUntil hgu, congrArg Guarding.gap hgu⟩

/-- A password rejected now makes one more time, which lies apart from the last one. -/
theorem rejected {u : World S} {a' : Account} {t : DateTime} (ha : v.account? id = some a)
    (ha' : u.account? id = some a') (hl : a.credentials.isLocked v.clock = false)
    (ht : v.clock.addMinutes? setup.policy.lockMinutes = some t) (hc : u.clock = v.clock)
    (hgu : a'.guarding = ⟨a.credentials.passwordHash, a.credentials.loginAttempts + 1,
      if setup.policy.maxAttempts ≤ a.credentials.loginAttempts + 1 then some t else a.credentials.lockedUntil,
      false⟩) :
    Guarded setup id (ts ++ [v.clock]) u := by
  obtain ⟨hs, hn, hlock, -⟩ := hg.fields ha
  have hp : a'.credentials.passwordHash = a.credentials.passwordHash := congrArg Guarding.passwordHash hgu
  have hlast : ∀ (i : Nat) (x : DateTime), (ts ++ [v.clock])[i]? = some x →
      (i < ts.length ∧ ts[i]? = some x) ∨ (i = ts.length ∧ x = v.clock) := by
    intro i x hx
    rw [List.getElem?_append] at hx
    split at hx
    · next hi => exact .inl ⟨hi, hx⟩
    · next hi =>
      obtain ⟨hi', hx'⟩ := List.getElem?_eq_some_iff.1 hx
      rw [List.length_singleton] at hi'
      exact .inr ⟨by omega, by rw [← hx']; simp⟩
  refine ⟨⟨a', ha', hp ▸ hs, ?_⟩, ?_, ?_, ?_, ?_⟩
  · rw [hgu, hp, hn, lockAfter_concat, ht, List.length_append, List.length_singleton, Nat.cast_add, Nat.cast_one]
    by_cases hm : setup.policy.maxAttempts ≤ (ts.length : Int) + 1
    · rw [if_pos hm, if_pos hm]
    · rw [if_neg hm, if_neg hm, hlock, lockAfter_of_lt (by omega)]
  · intro x hx
    rw [hc]
    obtain hx | hx := List.mem_append.1 hx
    · exact hg.past x hx
    · rw [List.mem_singleton.1 hx]
  · intro x hx
    obtain hx | hx := List.mem_append.1 hx
    · exact hg.shown x hx
    · rw [List.mem_singleton.1 hx, ht]
      rfl
  · intro i x y hx hy
    obtain ⟨-, hx⟩ | ⟨hi, rfl⟩ := hlast i x hx
    · obtain ⟨-, hy⟩ | ⟨-, rfl⟩ := hlast (i + 1) y hy
      · exact hg.sorted i x y hx hy
      · exact hg.past x (List.mem_of_getElem? hx)
    · obtain ⟨hi', -⟩ | ⟨hi', -⟩ := hlast (i + 1) y hy <;> omega
  · intro i x y hi hx hy
    obtain ⟨-, hx⟩ | ⟨hi', rfl⟩ := hlast i x hx
    · obtain ⟨-, hy⟩ | ⟨hlen, rfl⟩ := hlast (i + 1) y hy
      · exact hg.apart i x y hi hx hy
      · -- the last rejected password before this one locked the account, and the lock has run out
        by_contra hlt
        have hlocked := (isLocked_iff hg.shown hlock v.clock).2 ⟨by omega, x, ?_, by omega⟩
        · rw [hl] at hlocked
          cases hlocked
        · rw [List.getLast?_eq_getElem?, ← hlen, Nat.add_sub_cancel]
          exact hx
    · obtain ⟨hi', -⟩ | ⟨hi', -⟩ := hlast (i + 1) y hy <;> omega

omit hg in
theorem accepted {u : World S} {a' : Account} {newHash : String} (ha' : u.account? id = some a')
    (hgu : a'.guarding = ⟨newHash, 0, none, false⟩) (hs : Hasher.IsHash newHash) : Guarded setup id [] u := by
  have hp : a'.credentials.passwordHash = newHash := congrArg Guarding.passwordHash hgu
  refine ⟨⟨a', ha', hp ▸ hs, ?_⟩, by simp, by simp, by simp, by simp⟩
  rw [hgu, hp, lockAfter]
  split <;> rfl

/-- A login that found the account keeps the invariant, whether it compared the password or not. -/
theorem step_found (h : v.Sound) (hu : setup.hasher.IsUsable setup.sources.salts)
    (hcount : LawfulStore.Counts S (ts.length + 1)) (hrep : (v.clock.addMinutes? setup.policy.lockMinutes).isSome)
    {identifier : String} (hf : v.find? identifier = some a) (hid : a.id = id) (password : String)
    (c : Option RequestContext) :
    Guarded setup id (rejectionsNext id ts (.of setup (.call (.login identifier password c)) v))
      ((Operation.login identifier password c).run setup v).2 := by
  have ha : v.account? id = some a := hid ▸ account?_of_find? h hf
  have hclock : ((Operation.login identifier password c).run setup v).2.clock = v.clock := clock_call h _
  have hmono : v.clock.instant ≤ ((Operation.login identifier password c).run setup v).2.clock.instant :=
    le_of_eq (congrArg DateTime.instant hclock.symm)
  obtain ⟨hs, hn, hlock, hgap⟩ := hg.fields ha
  obtain ⟨t, ht⟩ := Option.isSome_iff_exists.1 hrep
  cases hl : a.credentials.isLocked v.clock with
  | true =>
    obtain ⟨-, -, hstore, -, -⟩ := login_of_locked h hf hl
    rw [rejectionsNext_of_none (by simp [Entry.compared?, Entry.loginOf?, hf, hl])]
    exact hg.congr ha ((congrFun (account?_congr hstore) id).trans ha) rfl hmono
  | false =>
    have hcmp : (Entry.of setup (.call (.login identifier password c)) v).compared? id =
        (Hasher.verify a.credentials.passwordHash password).toOption := hid ▸ Entry.compared?_login hf hl c
    rcases hv : Hasher.verify a.credentials.passwordHash password with f | ⟨_ | _⟩
    · have hsame : ((Operation.login identifier password c).run setup v).2 = v := by
        rw [Operation.run_login setup h, Login.runOn_login h, hf]
        dsimp only
        rw [if_neg (by simp [hl]), hv]
      rw [rejectionsNext_of_none (by rw [hcmp, hv]; rfl)]
      exact hg.congr ha ((congrArg (World.account? · id) hsame).trans ha) rfl hmono
    · obtain ⟨-, a', hacc, hgu⟩ := login_of_rejected h hf hl hv hgap (hn ▸ hcount) ht
      rw [rejectionsNext, hcmp, hv]
      exact hg.rejected ha ((congrFun hacc id).trans (by rw [hid, Function.update_self])) hl ht hclock hgu
    · obtain ⟨a', newHash, hacc, hgu, hnew⟩ := login_of_accepted h hf hl hv hgap (by omega) hu hs
      rw [rejectionsNext, hcmp, hv]
      exact accepted ((congrFun hacc id).trans (by rw [hid, Function.update_self])) hgu hnew

/-- **One step** keeps the invariant, with the rejected password that it adds or the accepted one that it takes. -/
theorem step (h : v.Sound) (hu : setup.hasher.IsUsable setup.sources.salts)
    (hcount : LawfulStore.Counts S (ts.length + 1)) (hrep : (v.clock.addMinutes? setup.policy.lockMinutes).isSome)
    (s : Step) (hmono : v.clock.instant ≤ (s.run setup v).2.clock.instant) :
    Guarded setup id (rejectionsNext id ts (.of setup s v)) (s.run setup v).2 := by
  obtain ⟨a, ha, -⟩ := hg.account
  by_cases hlogin : ∃ identifier password c, s = .call (.login identifier password c)
  · obtain ⟨identifier, password, c, rfl⟩ := hlogin
    cases hf : v.find? identifier with
    | none =>
      have hsame : ((Operation.login identifier password c).run setup v).2.account? = v.account? := by
        rw [Operation.run_login setup h, Login.runOn_login h, hf]
        rfl
      rw [rejectionsNext_of_none (by simp [Entry.compared?, Entry.loginOf?, hf])]
      exact hg.congr ha ((congrFun hsame id).trans ha) rfl hmono
    | some b =>
      by_cases hid : b.id = id
      · exact hg.step_found h hu hcount hrep hf hid password c
      · rw [rejectionsNext_of_none (by simp [Entry.compared?, Entry.loginOf?, hf, hid])]
        exact hg.congr ha ((account?_login_of_ne h hf (Ne.symm hid)).trans ha) rfl hmono
  · have hno : (Entry.of setup s v).loginOf? = none := by
      unfold Entry.loginOf?
      split
      · next identifier password c hs => exact absurd ⟨identifier, password, c, hs⟩ hlogin
      · rfl
    obtain ⟨a', ha', hgu⟩ := step_keeps (F := Account.guarding) h s (fun op b b' hs hw =>
      hw.guarding_eq fun identifier password c he => hlogin ⟨identifier, password, c, hs.trans (he ▸ rfl)⟩)
      (fun _ => rfl) ha
    rw [rejectionsNext_of_none (by rw [Entry.compared?, hno])]
    exact hg.congr ha ha' hgu hmono

/-- The account is locked in the windows, and at no other time. -/
theorem isLocked_iff_inWindow (ha : v.account? id = some a) :
    a.credentials.isLocked v.clock ↔ InWindow setup ts v.clock := by
  rw [isLocked_iff hg.shown (hg.fields ha).2.2.1]
  constructor
  · rintro ⟨hm, t, ht, hlt⟩
    refine ⟨ts.length - 1, t, ?_, by rw [← List.getLast?_eq_getElem?]; exact ht,
      hg.past t (List.mem_of_getLast? ht), hlt⟩
    have : ts ≠ [] := fun he => by rw [he] at ht; cases ht
    have := List.length_pos_iff.2 this
    omega
  · rintro ⟨i, t, hi, ht, -, hlt⟩
    obtain ⟨hlast, hm⟩ := hg.last_of_window hi ht hlt
    exact ⟨hm, t, hlast, hlt⟩

omit hg in
/-- **One login**: how a rejected password is reported, and what a login does in a window and outside. -/
theorem login {e : Entry S} (hg : Guarded setup id ts e.before) (h : e.before.Sound)
    (hu : setup.hasher.IsUsable setup.sources.salts) (hcount : LawfulStore.Counts S (ts.length + 1))
    (hrep : (e.before.clock.addMinutes? setup.policy.lockMinutes).isSome) (he : e = Entry.of setup e.step e.before) :
    (e.compared? id = some false →
      e.result = .error (.refused (if ts.length + 1 < setup.policy.maxAttempts then
        .invalidCredentials else .tooManyAttempts setup.policy.lockMinutes))) ∧
    ∀ a password, e.loginOf? = some (a, password) → a.id = id →
      (InWindow setup ts e.before.clock →
        (∃ m, e.result = .error (.refused (.accountLocked m))) ∧ e.after.store = e.before.store ∧
          e.after.sessions = e.before.sessions ∧ e.after.outbox = e.before.outbox) ∧
      (¬ InWindow setup ts e.before.clock →
        Hasher.verify a.credentials.passwordHash password = .ok true →
        ∃ a', e.after.account? id = some a' ∧ a'.credentials.loginAttempts = 0 ∧
          a'.credentials.lockedUntil = none) := by
  constructor
  · intro hcmp
    unfold Entry.compared? at hcmp
    split at hcmp
    · next a password hl =>
      split at hcmp
      · next hcond =>
        obtain ⟨identifier, c, hf, heq⟩ := Entry.of_loginOf? he hl
        have ha := account?_of_find? h hf
        rw [hcond.1] at ha
        obtain ⟨-, hn, -, hgap⟩ := hg.fields ha
        obtain ⟨t, ht⟩ := Option.isSome_iff_exists.1 hrep
        have hv : Hasher.verify a.credentials.passwordHash password = .ok false := by
          cases hv : Hasher.verify a.credentials.passwordHash password with
          | error f => rw [hv] at hcmp; cases hcmp
          | ok b => rw [hv] at hcmp; cases hcmp; rfl
        have hres := (login_of_rejected (c := c) h hf hcond.2 hv hgap (hn ▸ hcount) ht).1
        rw [heq, Entry.of_result]
        show ((Operation.login identifier password c).run setup e.before).1 = _
        rw [hres, hn]
        by_cases hm : (ts.length : Int) + 1 < setup.policy.maxAttempts
        · rw [if_neg (by omega), if_pos hm]
        · rw [if_pos (by omega), if_neg hm]
      · cases hcmp
    · cases hcmp
  · intro a password hl hid
    obtain ⟨identifier, c, hf, heq⟩ := Entry.of_loginOf? he hl
    have ha := account?_of_find? h hf
    rw [hid] at ha
    have hiff := hg.isLocked_iff_inWindow ha
    constructor
    · intro hin
      obtain ⟨m, hres, hstore, hses, hout⟩ := login_of_locked h hf (hiff.2 hin)
      rw [heq]
      exact ⟨⟨m, hres⟩, hstore, hses, hout⟩
    · intro hout hv
      obtain ⟨hhash, hn, -, hgap⟩ := hg.fields ha
      obtain ⟨a', newHash, hacc, hgu, -⟩ := login_of_accepted (c := c) h hf
        (by simpa using fun h => hout (hiff.1 h)) hv hgap (by omega) hu hhash
      rw [heq]
      refine ⟨a', (congrFun hacc id).trans (by rw [hid, Function.update_self]), ?_, ?_⟩
      · exact congrArg Guarding.attempts hgu
      · exact congrArg Guarding.lockedUntil hgu

end Guarded

/-! ## Runs -/

variable {es : List (Entry S)} {a₀ : Account}

omit [LawfulStore S] in
theorem length_rejections_le (id : String) (es : List (Entry S)) : (rejections id es).length ≤ es.length := by
  induction es using List.reverseRecOn with
  | nil => exact Nat.le_refl _
  | append_singleton es e ih =>
    rw [rejections_concat, List.length_append, List.length_singleton, rejectionsNext]
    split
    · simp
    · rw [List.length_append, List.length_singleton]
      omega
    · omega

theorem Guarded.run (hu : setup.hasher.IsUsable setup.sources.salts) (hw : w.Sound) (ha : w.account? id = some a₀)
    (hs : Hasher.IsHash a₀.credentials.passwordHash)
    (h0 : a₀.guarding = ⟨a₀.credentials.passwordHash, 0, none, false⟩) (hr : Run setup w es v)
    (hmono : ∀ e ∈ es, e.before.clock.instant ≤ e.after.clock.instant)
    (hrep : ∀ e ∈ es, (e.before.clock.addMinutes? setup.policy.lockMinutes).isSome)
    (hcount : ∀ n : Nat, n ≤ es.length → LawfulStore.Counts S n) : Guarded setup id (rejections id es) v := by
  induction hr with
  | start => exact Guarded.accepted ha h0 hs
  | @step es v hr s ih =>
    have hlast : Entry.of setup s v ∈ es ++ [Entry.of setup s v] := by simp
    have hg := ih (fun e he => hmono e (List.mem_append_left _ he)) (fun e he => hrep e (List.mem_append_left _ he))
      fun n hn => hcount n (by rw [List.length_append]; omega)
    rw [rejections_concat]
    refine hg.step (hr.sound hw) hu ?_ (hrep _ hlast) s (hmono _ hlast)
    have := length_rejections_le id es
    exact_mod_cast hcount ((rejections id es).length + 1) (by rw [List.length_append, List.length_singleton]; omega)

/-- **How often a password can be guessed.** The count of an account is the number of passwords that were rejected
since the last accepted one. From the limit on they lie a lock apart; below the limit they are reported as wrong, and
then as too many. In the windows between, no login of the account has any effect; outside, the right password takes
count and lock away. -/
theorem lockout_bounds_guessing (hu : setup.hasher.IsUsable setup.sources.salts) (hw : w.Sound)
    (ha : w.account? id = some a₀) (hs : Hasher.IsHash a₀.credentials.passwordHash)
    (h0 : a₀.guarding = ⟨a₀.credentials.passwordHash, 0, none, false⟩) (hr : Run setup w es v)
    (hmono : ∀ e ∈ es, e.before.clock.instant ≤ e.after.clock.instant)
    (hrep : ∀ e ∈ es, (e.before.clock.addMinutes? setup.policy.lockMinutes).isSome)
    (hcount : ∀ n : Nat, n ≤ es.length → LawfulStore.Counts S n) :
    (∃ a, v.account? id = some a ∧ a.credentials.loginAttempts = (rejections id es).length) ∧
    (∀ (i : Nat) (t u : DateTime), (rejections id es)[i]? = some t → (rejections id es)[i + 1]? = some u →
      t.instant ≤ u.instant ∧ (setup.policy.maxAttempts ≤ i + 1 → t.instant + lockSpan setup ≤ u.instant)) ∧
    ∀ pre e post, es = pre ++ e :: post →
      (e.compared? id = some false →
        e.result = .error (.refused (if (rejections id pre).length + 1 < setup.policy.maxAttempts then
          .invalidCredentials else .tooManyAttempts setup.policy.lockMinutes))) ∧
      ∀ a password, e.loginOf? = some (a, password) → a.id = id →
        (InWindow setup (rejections id pre) e.before.clock →
          (∃ m, e.result = .error (.refused (.accountLocked m))) ∧ e.after.store = e.before.store ∧
            e.after.sessions = e.before.sessions ∧ e.after.outbox = e.before.outbox) ∧
        (¬ InWindow setup (rejections id pre) e.before.clock →
          Hasher.verify a.credentials.passwordHash password = .ok true →
          ∃ a', e.after.account? id = some a' ∧ a'.credentials.loginAttempts = 0 ∧
            a'.credentials.lockedUntil = none) := by
  have hg := Guarded.run hu hw ha hs h0 hr hmono hrep hcount
  refine ⟨?_, fun i t u ht hu' => ⟨hg.sorted i t u ht hu', fun hi => hg.apart i t u hi ht hu'⟩, ?_⟩
  · obtain ⟨a, ha', -⟩ := hg.account
    exact ⟨a, ha', (hg.fields ha').2.1⟩
  · intro pre e post hes
    obtain ⟨hpre, ho⟩ := hr.split hes
    have hsound := hpre.sound hw
    have hmem : ∀ x ∈ pre, x ∈ es := fun x hx => hes ▸ List.mem_append_left _ hx
    have he : e ∈ es := by simp [hes]
    have hgp := Guarded.run hu hw ha hs h0 hpre (fun x hx => hmono x (hmem x hx)) (fun x hx => hrep x (hmem x hx))
      fun n hn => hcount n (by rw [hes, List.length_append]; omega)
    have hroom := length_rejections_le id pre
    refine hgp.login hsound hu ?_ (hrep e he) ho
    exact_mod_cast hcount ((rejections id pre).length + 1) (by rw [hes]; simp; omega)

/-! ## A lock that runs out -/

/-- The settings of a system that locks an account at the second wrong password. -/
def Setup.wary : Setup := { Setup.sample with policy := { maxAttempts := 2 } }

/-- A quarter of an hour after the first of the times. -/
def DateTime.quarterPast : { t : DateTime // t.offset = 0 } :=
  ⟨⟨epoch.wall + 15 * perMinute, 0, by decide, neg_perDay_neg, perDay_pos⟩, rfl⟩

/-- A login of the sample. -/
def Operation.guess (password : String) : Operation := .login "user@example.org" password none

/-- Two wrong passwords, and the right one before and after the end of the lock. -/
def Step.guesses : List Step :=
  [.call (.guess Account.overlongPassword), .call (.guess Account.overlongPassword), .call (.guess "password"),
    .clock DateTime.quarterPast, .call (.guess "password")]

/-- The account after two wrong passwords. -/
def Account.lockedOut : Account := (Account.sample.counted 2).changed [.lockedUntil (some DateTime.quarterPast.1)]

namespace World

/-- After a wrong password. -/
def warned : World MemoryStore :=
  ((Login.countFailure Setup.wary .sample none : Op MemoryStore Login.Outcome).runOn sample).2

/-- After another one. -/
def lockedOut : World MemoryStore :=
  ((Login.countFailure Setup.wary (Account.sample.counted 1) none : Op MemoryStore Login.Outcome).runOn warned).2

/-- After the right password, which comes too early. -/
def turnedAway : World MemoryStore :=
  lockedOut.logged Setup.wary .loginFailed (some "1") none
    (some (.accountLocked (Account.lockedOut.credentials.remainingLockMinutes .epoch))) []

theorem compared_sample : Login.Compared "user@example.org" Account.overlongPassword sample .sample false :=
  ⟨rfl, rfl, Account.verify_overlongPassword, rfl⟩

theorem run_sample : (Operation.guess Account.overlongPassword).run Setup.wary sample =
    (.error (.refused .invalidCredentials), warned) := by
  rw [Operation.guess, Operation.run_login _ sound_sample, compared_sample.runOn_login sound_sample]
  rfl

theorem sound_warned : warned.Sound := by
  have h : ((Operation.guess Account.overlongPassword).run Setup.wary sample).2.Sound :=
    sound_step sound_sample (.call _)
  rw [run_sample] at h
  exact h

theorem compared_warned :
    Login.Compared "user@example.org" Account.overlongPassword warned (Account.sample.counted 1) false :=
  ⟨rfl, rfl, Account.verify_overlongPassword, rfl⟩

theorem run_warned : (Operation.guess Account.overlongPassword).run Setup.wary warned =
    (.error (.refused (.tooManyAttempts 15)), lockedOut) := by
  rw [Operation.guess, Operation.run_login _ sound_warned, compared_warned.runOn_login sound_warned]
  rfl

theorem sound_lockedOut : lockedOut.Sound := by
  have h : ((Operation.guess Account.overlongPassword).run Setup.wary warned).2.Sound :=
    sound_step sound_warned (.call _)
  rw [run_warned] at h
  exact h

theorem run_lockedOut : (Operation.guess "password").run Setup.wary lockedOut =
    (.error (.refused (.accountLocked (Account.lockedOut.credentials.remainingLockMinutes .epoch))), turnedAway) := by
  have hf : lockedOut.find? "user@example.org" = some Account.lockedOut := rfl
  rw [Operation.guess, Operation.run_login _ sound_lockedOut,
    Login.runOn_login_locked sound_lockedOut hf (by decide)]
  rfl

/-- After the lock has run out. -/
def released : World MemoryStore := { turnedAway with clock := DateTime.quarterPast }

theorem sound_released : released.Sound := ⟨sound_lockedOut.store, DateTime.quarterPast.2⟩

end World

namespace Entry

/-- The first wrong password. -/
def wrong : Entry MemoryStore := .of Setup.wary (.call (.guess Account.overlongPassword)) World.sample

/-- The second one, which locks the account. -/
def locking : Entry MemoryStore := .of Setup.wary (.call (.guess Account.overlongPassword)) World.warned

/-- The right password, too early. -/
def early : Entry MemoryStore := .of Setup.wary (.call (.guess "password")) World.lockedOut

/-- The time until the end of the lock. -/
def wait : Entry MemoryStore := .of Setup.wary (.clock DateTime.quarterPast) World.turnedAway

/-- The right password in time. -/
def late : Entry MemoryStore := .of Setup.wary (.call (.guess "password")) World.released

theorem compared?_wrong : wrong.compared? "1" = some false :=
  (compared?_login World.compared_sample.found rfl none).trans (congrArg _ Account.verify_overlongPassword)

theorem compared?_locking : locking.compared? "1" = some false :=
  (compared?_login World.compared_warned.found rfl none).trans (congrArg _ Account.verify_overlongPassword)

theorem compared?_early : early.compared? "1" = none := rfl

theorem compared?_wait : wait.compared? "1" = none := rfl

theorem loginOf?_early : early.loginOf? = some (Account.lockedOut, "password") := rfl

theorem loginOf?_late : late.loginOf? = some (Account.lockedOut, "password") := rfl

end Entry

theorem entriesOf_guesses : entriesOf Setup.wary World.sample Step.guesses =
    [.wrong, .locking, .early, .wait, .late] := by
  unfold Step.guesses
  rw [entriesOf_cons, Step.run_call, World.run_sample, entriesOf_cons, Step.run_call, World.run_warned, entriesOf_cons,
    Step.run_call, World.run_lockedOut, entriesOf_cons, entriesOf_cons, entriesOf_nil]
  rfl

theorem rejections_wrong : rejections "1" [.wrong] = [.epoch] := by
  rw [rejections, List.foldl_cons, rejectionsNext_of_false Entry.compared?_wrong]
  rfl

theorem rejections_locking : rejections "1" [.wrong, .locking] = [.epoch, .epoch] := by
  rw [rejections, List.foldl_cons, rejectionsNext_of_false Entry.compared?_wrong, List.foldl_cons,
    rejectionsNext_of_false Entry.compared?_locking]
  rfl

theorem rejections_wait : rejections "1" [.wrong, .locking, .early, .wait] = [.epoch, .epoch] := by
  have hearly := rejections_concat "1" [.wrong, .locking] .early
  have hwait := rejections_concat "1" [.wrong, .locking, .early] .wait
  rw [rejectionsNext_of_none Entry.compared?_early, rejections_locking] at hearly
  rw [rejectionsNext_of_none Entry.compared?_wait] at hwait
  exact hwait.trans hearly

/-- The clock never goes back in that run. -/
theorem clock_guesses : ∀ e ∈ [Entry.wrong, .locking, .early, .wait, .late],
    e.before.clock.instant ≤ e.after.clock.instant := by
  simp only [List.forall_mem_cons]
  refine ⟨?_, ?_, ?_, ?_, ?_, fun _ h => nomatch h⟩
  · exact (congrArg DateTime.instant (clock_call World.sound_sample _)).ge
  · exact (congrArg DateTime.instant (clock_call World.sound_warned _)).ge
  · exact (congrArg DateTime.instant (clock_call World.sound_lockedOut _)).ge
  · decide
  · exact (congrArg DateTime.instant (clock_call World.sound_released _)).ge

/-- There is room for a lock at every time of it. -/
theorem addMinutes?_guesses : ∀ e ∈ [Entry.wrong, .locking, .early, .wait, .late],
    (e.before.clock.addMinutes? Setup.wary.policy.lockMinutes).isSome := by
  have hepoch : (DateTime.epoch.addMinutes? Setup.wary.policy.lockMinutes).isSome := by decide +kernel
  have hquarter : (DateTime.quarterPast.1.addMinutes? Setup.wary.policy.lockMinutes).isSome := by decide +kernel
  simp only [List.forall_mem_cons]
  exact ⟨hepoch, hepoch, hepoch, hepoch, hquarter, fun _ h => nomatch h⟩

theorem inWindow_early : InWindow Setup.wary (rejections "1" [.wrong, .locking]) Entry.early.before.clock := by
  rw [rejections_locking]
  exact ⟨1, .epoch, by decide, rfl, le_refl _, by decide⟩

theorem not_inWindow_late :
    ¬ InWindow Setup.wary (rejections "1" [.wrong, .locking, .early, .wait]) Entry.late.before.clock := by
  rw [rejections_wait]
  rintro ⟨i, t, -, ht, -, hlt⟩
  have hmem := List.mem_of_getElem? ht
  rw [List.mem_cons, List.mem_singleton, or_self] at hmem
  subst hmem
  exact absurd hlt (by decide)

/-- Of two wrong passwords the second locks the account. The right one is refused until the lock has run out, and then
it takes count and lock away. -/
theorem lockout_bounds_guessing_guesses :
    entriesOf Setup.wary World.sample Step.guesses = [.wrong, .locking, .early, .wait, .late] ∧
    Entry.wrong.result = .error (.refused .invalidCredentials) ∧
    Entry.locking.result = .error (.refused (.tooManyAttempts 15)) ∧
    (∃ m, Entry.early.result = .error (.refused (.accountLocked m))) ∧
    Entry.early.after.store = Entry.early.before.store ∧
    ∃ a, Entry.late.after.account? "1" = some a ∧ a.credentials.loginAttempts = 0 ∧
      a.credentials.lockedUntil = none := by
  have hr := Run.of_steps Setup.wary World.sample Step.guesses
  rw [entriesOf_guesses] at hr
  have husable : Setup.wary.hasher.IsUsable Setup.wary.sources.salts := Setup.isUsable_sample
  obtain ⟨-, -, hentries⟩ := lockout_bounds_guessing husable World.sound_sample World.account?_sample_self
    Account.isHash_sample Account.guarding_sample hr clock_guesses addMinutes?_guesses fun _ _ => trivial
  have hwrong := (hentries [] .wrong _ rfl).1 Entry.compared?_wrong
  have hlocking := (hentries [.wrong] .locking _ rfl).1 Entry.compared?_locking
  have hearly := ((hentries [.wrong, .locking] .early _ rfl).2 _ _ Entry.loginOf?_early rfl).1 inWindow_early
  have hlate := ((hentries [.wrong, .locking, .early, .wait] .late [] rfl).2 _ _ Entry.loginOf?_late rfl).2
    not_inWindow_late Account.verify_password
  rw [rejections_wrong] at hlocking
  exact ⟨entriesOf_guesses, hwrong, hlocking, hearly.1, hearly.2.1, hlate⟩

end AccountSecurity
