import AccountSecurity.Proofs.Outline

/-!
# What the audit log is told of secrets

* `Step.masked`, `Sight`, `Entry.seen` : what anyone may see of a step;
* `Outline.follow`, `outline_step`, `outline_of_run` : the outline after a step, and after a run;
* `log_tells_no_secrets` : **two runs in which the same is seen leave the same log;**
* `fault_hides_count` : a login that fails otherwise than by a refusal may hide what it leaves of the count of wrong
  passwords, so that this has to be seen as well.
-/

namespace AccountSecurity
open World

/-! ## What is seen of a step -/

/-- A step without the secrets that it hands over. -/
def Step.masked : Step → Step
  | call op => .call op.masked
  | s => s

/-- What is seen of a step: the step without secrets, its result, and the count and the lock that a login leaves if it
fails otherwise than by a refusal. -/
structure Sight where
  step : Step
  upshot : Upshot
  left : Option (Int × Bool)

/-- The outline after a step. -/
def Outline.follow (audited : Bool) (newId : Nat → String) (kept : Int → Int) (x : Outline) (s : Sight) : Outline :=
  match s.step with
  | .call op => x.next audited newId kept op s.upshot s.left
  | .clock now => { x with clock := now }
  | .outage _ | .confirmEmail _ => x

/-- The secrets of a call are not needed to follow it. -/
theorem Outline.next_masked (audited : Bool) (newId : Nat → String) (kept : Int → Int) (op : Operation) (u : Upshot)
    (left : Option (Int × Bool)) (x : Outline) :
    x.next audited newId kept op.masked u left = x.next audited newId kept op u left := by
  cases op <;> rfl

section Run
variable {S : Type} [AccountStore S] [DirectoryStore S] {setup : Setup} {w v : World S} {es : List (Entry S)}

/-- What is seen of a step that was taken. -/
def Entry.seen (e : Entry S) : Sight where
  step := e.step.masked
  upshot := .of e.result
  left :=
    match e.step with
    | .call op => op.left? e.after.outline e.result
    | _ => none

/-- The outline after a step follows from what is seen of it. -/
theorem outline_step (h : w.Sound) (s : Step) :
    (Entry.of setup s w).after.outline =
      w.outline.follow setup.audited setup.sources.accountIds (LawfulStore.countKept S) (Entry.of setup s w).seen := by
  cases s with
  | call op => exact (outline_run h op).trans (Outline.next_masked ..).symm
  | clock now => rfl
  | outage o => rfl
  | confirmEmail id =>
    rw [Entry.of_after, run_confirmEmail h]
    cases ha : w.account? id with
    | none => rfl
    | some a => exact outline_changed_same h ha storable_emailVerified rfl

/-- The outline after a run follows from what is seen of its steps. -/
theorem outline_of_run (hw : w.Sound) (hr : Run setup w es v) :
    v.outline = (es.map Entry.seen).foldl
      (Outline.follow setup.audited setup.sources.accountIds (LawfulStore.countKept S)) w.outline := by
  induction hr with
  | start => rfl
  | @step es v hr s ih =>
    rw [List.map_append, List.foldl_append, ← ih]
    exact outline_step (hr.sound hw) s

/-- **The log tells no secrets.** Let two runs start in states that are alike but for their secrets, under settings that
give new accounts the same identifiers. If the steps are the same but for the secrets that they hand over, with the same
results but for the secrets in them, and the logins that fail otherwise than by a refusal leave the same count of wrong
passwords and both or neither a lock, then the logs have the same records. -/
theorem log_tells_no_secrets {setup₁ setup₂ : Setup} (haudited : setup₁.audited = setup₂.audited)
    (hids : setup₁.sources.accountIds = setup₂.sources.accountIds) {w₁ w₂ v₁ v₂ : World S} {es₁ es₂ : List (Entry S)}
    (hw₁ : w₁.Sound) (hw₂ : w₂.Sound) (hw : w₁.outline = w₂.outline) (hr₁ : Run setup₁ w₁ es₁ v₁)
    (hr₂ : Run setup₂ w₂ es₂ v₂) (hseen : es₁.map Entry.seen = es₂.map Entry.seen) :
    v₁.audit.events.toList.map Event.toJson = v₂.audit.events.toList.map Event.toJson := by
  have hv : v₁.outline = v₂.outline := by
    rw [outline_of_run hw₁ hr₁, outline_of_run hw₂ hr₂, hw, hseen, haudited, hids]
  have haudit : v₁.audit = v₂.audit := congrArg Outline.audit hv
  rw [haudit]

end Run

/-- The settings with draws from another place on. -/
def Setup.shifted (k : Nat) : Setup :=
  { Setup.sample with sources := { Setup.sample.sources with draws := fun n => n + k } }

/-- Giving a number and proving it. -/
def Step.provings (number code : String) : List Step :=
  [.call (.initiatePhone "1" number), .call (.verifyPhone "1" code)]

/-- Two numbers, each proven by the code that was drawn for it. -/
theorem log_tells_no_secrets_provings :
    (Setup.shifted 1).audited = (Setup.shifted 2).audited ∧
    (Setup.shifted 1).sources.accountIds = (Setup.shifted 2).sources.accountIds ∧ World.sample.Sound ∧
    (entriesOf (Setup.shifted 1) World.sample (Step.provings "+34600000001" "000001")).map Entry.seen =
      (entriesOf (Setup.shifted 2) World.sample (Step.provings "+34600000002" "000002")).map Entry.seen ∧
    (World.sample.through (Setup.shifted 1) (Step.provings "+34600000001" "000001")).audit.events.toList.map
        Event.toJson =
      (World.sample.through (Setup.shifted 2) (Step.provings "+34600000002" "000002")).audit.events.toList.map
        Event.toJson := by
  let seen : List Sight :=
    [⟨.call (.initiatePhone "1" ""), .done, none⟩, ⟨.call (.verifyPhone "1" ""), .answered true, none⟩]
  have hfirst : (entriesOf (Setup.shifted 1) World.sample (Step.provings "+34600000001" "000001")).map Entry.seen =
      seen := rfl
  have hsecond : (entriesOf (Setup.shifted 2) World.sample (Step.provings "+34600000002" "000002")).map Entry.seen =
      seen := rfl
  have hseen := hfirst.trans hsecond.symm
  have hrun₁ := Run.of_steps (Setup.shifted 1) World.sample (Step.provings "+34600000001" "000001")
  have hrun₂ := Run.of_steps (Setup.shifted 2) World.sample (Step.provings "+34600000002" "000002")
  have haudited : (Setup.shifted 1).audited = (Setup.shifted 2).audited := rfl
  have hids : (Setup.shifted 1).sources.accountIds = (Setup.shifted 2).sources.accountIds := rfl
  exact ⟨haudited, hids, World.sound_sample, hseen,
    log_tells_no_secrets haudited hids World.sound_sample World.sound_sample rfl hrun₁ hrun₂ hseen⟩

/-! ## Logins that fail otherwise than by a refusal -/

/-- The settings of a system that locks an account at the first wrong password. -/
def Setup.strict : Setup := { Setup.sample with policy := { maxAttempts := 1 } }

/-- Ten minutes before the end of the calendar. -/
def DateTime.almostEnd : { t : DateTime // t.offset = 0 } :=
  ⟨⟨wallEnd - 10 * perMinute, 0, by decide, by decide, by decide⟩, rfl⟩

/-- A login when no session and no lock can end any more, and a wrong password at another time. -/
def Step.lateLogins (password : String) : List Step :=
  [.clock DateTime.almostEnd, .call (.login "user@example.org" password none), .clock ⟨.epoch, rfl⟩,
    .call (.login "user@example.org" Account.overlongPassword none)]

section Fault
variable {w : World MemoryStore} {a : Account}

/-- The accounts in this section differ from the sample only in their time of the login and in their count. -/
structure Account.IsSample (a : Account) : Prop where
  id : a.id = "1"
  passwordHash : a.credentials.passwordHash = Account.sample.credentials.passwordHash
  lockedUntil : a.credentials.lockedUntil = none
  gaps : a.credentials.gaps.loginAttempts = false
  attempts : 0 ≤ a.credentials.loginAttempts

/-- A wrong password under settings that lock at the first one. -/
theorem run_overlong (h : w.Sound) (hf : w.find? "user@example.org" = some a) (ha : a.IsSample) :
    (Operation.login "user@example.org" Account.overlongPassword none).run Setup.strict w =
      match w.clock.addMinutes? 15 with
      | none => (.error (.fault .timeRange), w.counted a.id)
      | some t => (.error (.refused (.tooManyAttempts 15)),
          ((w.counted a.id).changed a.id [.lockedUntil (some t)]).logged Setup.strict .userLocked (some a.id) none
            (some (.tooManyAttempts 15)) [("login_attempts", .int (a.credentials.loginAttempts + 1))]) := by
  have hunlocked : a.credentials.isLocked w.clock = false := by
    unfold Credentials.isLocked
    rw [ha.lockedUntil]
    rfl
  obtain ⟨n, hcount, -, -, hr⟩ :=
    Login.runOn_countFailure Login.Outcome h Setup.strict (account?_of_find? h hf) ha.gaps none
  obtain rfl : n = a.credentials.loginAttempts + 1 := hcount
  have hminutes : Setup.strict.policy.lockMinutes = 15 := rfl
  have hlimit : Setup.strict.policy.maxAttempts ≤ a.credentials.loginAttempts + 1 :=
    Int.add_le_add_right ha.attempts 1
  have hc : Login.Compared "user@example.org" Account.overlongPassword w a false :=
    ⟨hf, hunlocked, by rw [ha.passwordHash, Account.verify_overlongPassword], ha.gaps⟩
  rw [Operation.run_login _ h, hc.runOn_login h, hr, if_pos hlimit, hminutes]
  cases w.clock.addMinutes? 15 with
  | none => rfl
  | some t => rfl

/-- The sample at the end of the calendar. -/
def World.late : World MemoryStore := { World.sample with clock := DateTime.almostEnd }

theorem sound_late : World.late.Sound := ⟨World.sound_sample.store, DateTime.almostEnd.2⟩

theorem admitted_late : Login.Admitted Setup.strict "user@example.org" "password" World.late .sample none := by
  have hcurrent : Setup.strict.hasher.needsRehash Account.sample.credentials.passwordHash = .ok false :=
    Account.needsRehash_sample
  exact ⟨⟨rfl, rfl, Account.verify_password, rfl⟩, Login.upgradedHash_of_current hcurrent _⟩

/-- A right password when the session cannot end any more. -/
theorem run_late :
    (Operation.login "user@example.org" "password" none).run Setup.strict World.late =
      (.error (.fault .timeRange), (Login.admitted .sample none World.late).tookTokens) := by
  have hsound := admitted_late.sound sound_late
  have hverified : ¬ ((!Account.sample.credentials.emailVerified) = true) := by decide
  have hsms : ¬ (Login.smsActive Account.sample.credentials = true) := by decide
  have hend : DateTime.almostEnd.1.addSeconds? Setup.strict.lifetimes.accessSeconds = none := by decide +kernel
  have hsession : TokenIssuer.nextSession? Setup.strict Account.sample.view (Login.admitted .sample none World.late) =
      none := by
    unfold TokenIssuer.nextSession?
    rw [show (Login.admitted .sample none World.late).clock = DateTime.almostEnd.1 from rfl, hend]
    rfl
  have hlogin : (Login.login Setup.strict "user@example.org" "password" none).runOn World.late =
      (.error (.fault .timeRange), (Login.admitted .sample none World.late).tookTokens) := by
    rw [admitted_late.runOn_login sound_late, Login.runOn_proceed hsound, if_neg hverified, if_neg hsms,
      Login.runOn_complete hsound, hsession]
    rfl
  rw [Operation.run_login _ sound_late, hlogin]
  rfl

/-- A wrong password after the clock was set back, and the log that it leaves. -/
theorem run_overlong_epoch (h : w.Sound) (hf : w.find? "user@example.org" = some a) (ha : a.IsSample)
    (hclock : w.clock = .epoch) (hlog : w.audit = .empty) :
    ∃ v, (Operation.login "user@example.org" Account.overlongPassword none).run Setup.strict w =
        (.error (.refused (.tooManyAttempts 15)), v) ∧
      v.audit = AuditLog.empty.record (Event.of .epoch .userLocked (some "1") none (some "TooManyAttemptsError")
        (.object [("login_attempts", .int (a.credentials.loginAttempts + 1))])) := by
  obtain ⟨t, ht⟩ : ∃ t, DateTime.epoch.addMinutes? 15 = some t := Option.isSome_iff_exists.1 (by decide +kernel)
  have hr := run_overlong h hf ha
  rw [hclock, ht] at hr
  refine ⟨_, hr, ?_⟩
  show w.audit.record (Event.of w.clock .userLocked (some a.id) none _ _) = _
  rw [hlog, hclock, ha.id]
  rfl

theorem run_lateLogins {password : String} {f f' : Failure} {v v' : World MemoryStore}
    (hfirst : (Operation.login "user@example.org" password none).run Setup.strict World.late = (.error f, v))
    (hsecond : (Operation.login "user@example.org" Account.overlongPassword none).run Setup.strict
      { v with clock := .epoch } = (.error f', v')) :
    (entriesOf Setup.strict World.sample (Step.lateLogins password)).map (fun e => (e.step.masked, e.result)) =
      [(.clock DateTime.almostEnd, .ok .done), (.call (.login "user@example.org" "" none), .error f),
        (.clock ⟨.epoch, rfl⟩, .ok .done), (.call (.login "user@example.org" "" none), .error f')] ∧
    World.sample.through Setup.strict (Step.lateLogins password) = v' := by
  have hstart : ((Step.clock DateTime.almostEnd).run Setup.strict World.sample).2 = World.late := rfl
  have hback : ((Step.clock ⟨.epoch, rfl⟩).run Setup.strict v).2 = { v with clock := .epoch } := rfl
  constructor
  · unfold Step.lateLogins
    rw [entriesOf_cons, hstart, entriesOf_cons, Step.run_call, hfirst, entriesOf_cons, hback, entriesOf_cons,
      Step.run_call, hsecond, entriesOf_nil]
    simp only [List.map_cons, List.map_nil, Entry.of_step, Entry.of_result, Step.run_call, hfirst, hsecond]
    rfl
  · unfold Step.lateLogins World.through
    rw [List.foldl_cons, hstart, List.foldl_cons, Step.run_call, hfirst, List.foldl_cons, hback, List.foldl_cons,
      Step.run_call, hsecond, List.foldl_nil]

/-- A right and a wrong password, where neither a session nor a lock can end: both logins fail in the same way, and the
next wrong password is the first of one account and the second of the other. -/
theorem fault_hides_count :
    (entriesOf Setup.strict World.sample (Step.lateLogins "password")).map (fun e => (e.step.masked, e.result)) =
      (entriesOf Setup.strict World.sample (Step.lateLogins Account.overlongPassword)).map
        (fun e => (e.step.masked, e.result)) ∧
    (World.sample.through Setup.strict (Step.lateLogins "password")).audit.events.toList.map Event.toJson ≠
      (World.sample.through Setup.strict (Step.lateLogins Account.overlongPassword)).audit.events.toList.map
        Event.toJson := by
  have hf : World.late.find? "user@example.org" = some .sample := rfl
  have ha : World.late.account? "1" = some .sample := account?_of_find? sound_late hf
  have hsample : Account.sample.IsSample := ⟨rfl, rfl, rfl, rfl, by decide⟩
  have hend : World.late.clock.addMinutes? 15 = none := by decide +kernel
  -- the right password sets the count back, which was zero
  have hright : ((Login.admitted .sample none World.late).tookTokens).Sound :=
    (admitted_late.sound sound_late).tookTokens
  obtain ⟨v₁, hr₁, hlog₁⟩ := run_overlong_epoch (w := { (Login.admitted .sample none World.late).tookTokens with
    clock := .epoch }) (a := Account.sample.changed (Login.acceptance World.late.clock Account.sample.credentials none))
    ⟨hright.store, rfl⟩
    (find?_of_update sound_late ⟨hright.store, rfl⟩ hf (DirectoryStore.directory_updateCredentials ..)
      (admitted_late.account?_admitted sound_late)) ⟨rfl, rfl, rfl, rfl, by decide⟩ rfl rfl
  -- the wrong one counts up
  have hwrong := run_overlong sound_late hf hsample
  rw [hend] at hwrong
  obtain ⟨n, -, hsound, hl, hcount⟩ := runOn_count sound_late ha rfl
  obtain rfl : n = 1 := hcount
  obtain ⟨v₂, hr₂, hlog₂⟩ := run_overlong_epoch (w := { World.late.counted "1" with clock := .epoch })
    (a := Account.sample.counted 1) ⟨hsound.store, rfl⟩
    (find?_of_update sound_late ⟨hsound.store, rfl⟩ hf (DirectoryStore.directory_incrementAttempts ..) hl)
    ⟨rfl, rfl, rfl, rfl, by decide⟩ rfl rfl
  obtain ⟨hseen₁, hv₁⟩ := run_lateLogins run_late hr₁
  obtain ⟨hseen₂, hv₂⟩ := run_lateLogins hwrong hr₂
  refine ⟨hseen₁.trans hseen₂.symm, ?_⟩
  rw [hv₁, hv₂, hlog₁, hlog₂]
  decide +kernel

end Fault

end AccountSecurity
