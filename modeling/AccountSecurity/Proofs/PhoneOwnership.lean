import AccountSecurity.Proofs.Phone

/-!
# A verified number is the number of the account

The slot for codes does not say to which number its code was sent. That it was the number of the account follows from
the history: a call that changes the number issues a new code at once.

* `Asked`, `Proven` : a run with calls that verify a number which did not change since;
* `PhoneHistory` : the phone of an account as its history tells, kept by every step;
* `phone_proven_by_history` : **verified numbers, pending codes and messages** of every run.
-/

namespace AccountSecurity
open World

variable {S : Type}
variable [AccountStore S] [LawfulStore S] {setup : Setup} {w v : World S} {es : List (Entry S)} {id i : String}
  {a : Account} {p q : Phone}

/-- The number of an account. -/
def World.number? (w : World S) (id : String) : Option String := (w.phone? id).bind (·.number)

/-- The verification of a number was started with this code, and the number has not changed since. -/
def Asked (setup : Setup) (id number code : String) (es : List (Entry S)) : Prop :=
  ∃ pre e post, es = pre ++ e :: post ∧ e.Asks setup id number code ∧
    ∀ x ∈ e :: post, x.after.number? id = some number

/-- The verification of a number was started, its code was accepted later, and the number has not changed since. -/
def Proven (setup : Setup) (id number : String) (es : List (Entry S)) : Prop :=
  ∃ pre e mid e' post code, es = pre ++ e :: (mid ++ e' :: post) ∧ e.Asks setup id number code ∧
    e'.Answers id code ∧ ∀ x ∈ e :: (mid ++ e' :: post), x.after.number? id = some number

section History
variable {number code : String} {e : Entry S}

theorem Asked.concat (h : Asked setup id number code es) (he : e.after.number? id = some number) :
    Asked setup id number code (es ++ [e]) := by
  obtain ⟨pre, x, post, hes, hx, hpost⟩ := h
  refine ⟨pre, x, post ++ [e], by rw [hes]; simp, hx, ?_⟩
  rw [← List.cons_append]
  exact List.forall_mem_append.2 ⟨hpost, List.forall_mem_singleton.2 he⟩

theorem Proven.concat (h : Proven setup id number es) (he : e.after.number? id = some number) :
    Proven setup id number (es ++ [e]) := by
  obtain ⟨pre, x, mid, y, post, code, hes, hx, hy, hpost⟩ := h
  refine ⟨pre, x, mid, y, post ++ [e], code, by rw [hes]; simp, hx, hy, ?_⟩
  rw [show x :: (mid ++ y :: (post ++ [e])) = x :: (mid ++ y :: post) ++ [e] by simp]
  exact List.forall_mem_append.2 ⟨hpost, List.forall_mem_singleton.2 he⟩

/-- A code that was asked for, and is accepted now, proves the number. -/
theorem Asked.proven (h : Asked setup id number code es) (he : e.Answers id code)
    (hn : e.after.number? id = some number) : Proven setup id number (es ++ [e]) := by
  obtain ⟨pre, x, post, hes, hx, hpost⟩ := h
  refine ⟨pre, x, post, e, [], code, by rw [hes]; simp, hx, he, ?_⟩
  rw [← List.cons_append]
  exact List.forall_mem_append.2 ⟨hpost, List.forall_mem_singleton.2 hn⟩

end History

/-- The phone of an account as its history tells. -/
structure PhoneHistory (setup : Setup) (id : String) (es : List (Entry S)) (p : Phone) : Prop where
  /-- A verified number is proven. -/
  verified : p.verified → ∃ number, p.number = some number ∧ Proven setup id number es
  /-- The factor is on for a verified number only. -/
  active : p.active → p.verified
  /-- A code has a purpose. -/
  purpose : p.slot.code.isSome → p.slot.purpose.isSome
  /-- A code that waits for the verification of a number was sent to this number. -/
  asked : ∀ code, p.slot.code = some code → p.slot.purpose = some .phoneVerification →
    ∃ number, p.number = some number ∧ Asked setup id number code es
  /-- A code waits for the second step of a login only while the factor is on. -/
  login : p.slot.code.isSome → p.slot.purpose = some .loginChallenge → p.active

namespace PhoneHistory

theorem of_new (number : Option String) : PhoneHistory setup id es { number } where
  verified := nofun
  active := nofun
  purpose := nofun
  asked := nofun
  login := nofun

theorem of_pendingFor? (h : PhoneHistory setup id es p) {purpose : OtpPurpose} {code : String}
    (hp : OtpChallenge.pendingFor? p.slot purpose = some code) :
    p.slot.code = some code ∧ p.slot.purpose = some purpose := by
  obtain ⟨hcode, hany⟩ := OtpChallenge.pendingFor?_eq_some.1 hp
  obtain ⟨q, hq⟩ := Option.isSome_iff_exists.1 (h.purpose (Option.isSome_of_eq_some hcode))
  exact ⟨hcode, hq.trans (congrArg some (hany q hq))⟩

/-- The history goes on with what an entry does. -/
theorem concat {e : Entry S} (h : PhoneHistory setup id es p) {o : Option Phone}
    (ho : e.ActsOnPhone setup id (some p) o) (he : e.after.phone? id = o) :
    ∃ q, o = some q ∧ PhoneHistory setup id (es ++ [e]) q := by
  -- proofs and requests for a number that the entry keeps
  have hproven : ∀ number, o.bind (·.number) = some number → Proven setup id number es →
      Proven setup id number (es ++ [e]) := by
    intro number hn hp
    exact hp.concat (by rw [World.number?, he, hn])
  have hasked : ∀ number code, o.bind (·.number) = some number → Asked setup id number code es →
      Asked setup id number code (es ++ [e]) := by
    intro number code hn hp
    exact hp.concat (by rw [World.number?, he, hn])
  have hverified : (∃ q, o = some q ∧ q.number = p.number) → p.verified →
      ∃ number, p.number = some number ∧ Proven setup id number (es ++ [e]) := by
    rintro ⟨q, rfl, hq⟩ hv
    obtain ⟨number, hn, hp⟩ := h.verified hv
    exact ⟨number, hn, hproven number (hq.trans hn) hp⟩
  cases ho with
  | quiet =>
    refine ⟨p, rfl, hverified ⟨p, rfl, rfl⟩, h.active, h.purpose, fun code hc hp => ?_, h.login⟩
    obtain ⟨number, hn, ha⟩ := h.asked code hc hp
    exact ⟨number, hn, hasked number code hn ha⟩
  | @initiated _ number code t ha =>
    refine ⟨_, rfl, fun hv => ?_, fun hact => ?_, fun _ => rfl, fun code' hc _ => ?_, fun _ hp => ?_⟩
    · -- the flag outlives the call only if the number is the old one
      obtain ⟨hv', hn⟩ := Phone.verified_of_moved hv
      obtain ⟨number', hn', hp⟩ := h.verified hv'
      obtain rfl : number' = number := Option.some.inj (hn'.symm.trans hn)
      exact ⟨number', Phone.moved_number .., hproven number' (Phone.moved_number ..) hp⟩
    · obtain ⟨hact', hsame⟩ := Phone.active_of_moved hact
      show (p.moved number).verified
      rw [hsame]
      exact h.active hact'
    · cases hc
      refine ⟨number, Phone.moved_number .., es, e, [], rfl, ha, fun x hx => ?_⟩
      rw [List.mem_singleton.1 hx, World.number?, he]
      exact Phone.moved_number ..
    · cases hp
  | challenged hactive hv =>
    exact ⟨_, rfl, hverified ⟨_, rfl, rfl⟩, h.active, fun _ => rfl, nofun, fun _ _ => hactive⟩
  | swept hcode =>
    refine ⟨_, rfl, hverified ⟨_, rfl, rfl⟩, h.active, h.purpose, fun code hc _ => ?_, h.login⟩
    rw [show p.slot.code = some code from hc] at hcode
    cases hcode
  | emptied =>
    exact ⟨_, rfl, hverified ⟨_, rfl, rfl⟩, h.active, nofun, nofun, nofun⟩
  | @confirmed _ code ha hp =>
    obtain ⟨hcode, hpurpose⟩ := h.of_pendingFor? hp
    obtain ⟨number, hn, hask⟩ := h.asked code hcode hpurpose
    have hafter : e.after.number? id = some number := by
      rw [World.number?, he]
      exact hn
    exact ⟨_, rfl, fun _ => ⟨number, hn, hask.proven ha hafter⟩, fun _ => rfl, nofun, nofun, nofun⟩
  | enabled hv =>
    refine ⟨_, rfl, hverified ⟨_, rfl, rfl⟩, fun _ => hv, h.purpose, fun code hc hp => ?_, fun _ _ => rfl⟩
    obtain ⟨number, hn, ha⟩ := h.asked code hc hp
    exact ⟨number, hn, hasked number code hn ha⟩
  | disabled =>
    exact ⟨_, rfl, hverified ⟨_, rfl, rfl⟩, nofun, nofun, nofun, nofun⟩

end PhoneHistory

/-- The steps of a run are in order. -/
def IssuesInOrder (setup : Setup) (es : List (Entry S)) : Prop := ∀ e ∈ es, e.step.IssuesInOrder setup e.before

/-- **The phone of an account** after every run from new accounts is as its history tells. -/
theorem phone_of_history (hw : w.Sound) (hnew : ∀ id a, w.account? id = some a → a.IsNew) (hr : Run setup w es v)
    (hin : IssuesInOrder setup es) {id : String} {p : Phone} (hp : v.phone? id = some p) :
    PhoneHistory setup id es p := by
  induction hr generalizing p with
  | start =>
    obtain ⟨a, ha, rfl⟩ := World.exists_account_of_phone? hp
    obtain ⟨passwordHash, emailVerified, hc⟩ := hnew id a ha
    rw [Account.phone, hc]
    exact .of_new a.phoneNumber
  | @step es v hr s ih =>
    have hbefore := hin (Entry.of setup s v) (List.mem_append_right es (List.mem_singleton.2 rfl))
    have hacts := actsOnPhone (hr.sound hw) s hbefore id
    have hes : IssuesInOrder setup es := fun e he => hin e (List.mem_append_left _ he)
    cases hv : v.phone? id with
    | some q =>
      rw [hv] at hacts
      obtain ⟨q', hq', hhist⟩ := (ih hes hv).concat hacts rfl
      obtain rfl : q' = p := Option.some.inj (hq'.symm.trans hp)
      exact hhist
    | none =>
      rw [hv, show (s.run setup v).2.phone? id = some p from hp] at hacts
      cases hacts with
      | registered => exact .of_new _

/-! ## What is said of every run -/

/-- **Verified numbers are proven.** After a run from new accounts, with its steps in order: a number is marked as
verified only if its verification was started, the code of that call was accepted later, and the number has not changed
since. A code that waits to verify a number was made for the number that the account has. A code waits for the second
step of a login only while the factor is on and the number is verified. And every message of the run went to the number
of the call that started its verification, or, at a login, to such a number of an account with the factor on. -/
theorem phone_proven_by_history (hw : w.Sound) (hnew : ∀ id a, w.account? id = some a → a.IsNew)
    (hr : Run setup w es v) (hin : IssuesInOrder setup es) :
    (∀ id a, v.account? id = some a →
      (a.credentials.phoneVerified → ∃ number, a.phoneNumber = some number ∧ Proven setup id number es) ∧
      (∀ code, OtpChallenge.pendingFor? a.credentials.otp .phoneVerification = some code →
        ∃ number, a.phoneNumber = some number ∧ Asked setup id number code es) ∧
      ∀ code, OtpChallenge.pendingFor? a.credentials.otp .loginChallenge = some code →
        a.credentials.smsEnabled ∧ a.credentials.phoneVerified) ∧
    ∀ pre e post, es = pre ++ e :: post → e.after.outbox = e.before.outbox ∨
      (∃ id number code, e.Asks setup id number code ∧
        e.after.outbox = e.before.outbox ++ [⟨number, otpMessage setup.phoneOtp number code⟩]) ∨
      ∃ identifier password c a number code, e.step = .call (.login identifier password c) ∧
        e.before.find? identifier = some a ∧ a.credentials.smsEnabled ∧ a.credentials.phoneVerified ∧
        a.phoneNumber = some number ∧ Proven setup a.id number pre ∧
        e.after.outbox = e.before.outbox ++ [⟨number, otpMessage setup.otp number code⟩] := by
  refine ⟨fun id a ha => ?_, fun pre e post hes => ?_⟩
  · have hhist := phone_of_history hw hnew hr hin (World.phone?_of_account? ha)
    refine ⟨hhist.verified, fun code hp => ?_, fun code hp => ?_⟩
    · obtain ⟨hcode, hpurpose⟩ := hhist.of_pendingFor? hp
      exact hhist.asked code hcode hpurpose
    · obtain ⟨hcode, hpurpose⟩ := hhist.of_pendingFor? hp
      have hactive := hhist.login (Option.isSome_of_eq_some hcode) hpurpose
      exact ⟨hactive, hhist.active hactive⟩
  · obtain ⟨hpre, ho⟩ := hr.split hes
    have hsound := hpre.sound hw
    have hine : e.step.IssuesInOrder setup e.before := hin e (by simp [hes])
    have hpreIn : IssuesInOrder setup pre := fun x hx => hin x (by simp [hes, hx])
    obtain hsame | ⟨id, number, code, hasks, hsent⟩ | ⟨identifier, password, c, a, number, code, hstep, hf, hactive,
      hverified, hnumber, hsent⟩ := outbox_step hsound e.step hine
    · exact .inl (by rw [ho]; exact hsame)
    · exact .inr (.inl ⟨id, number, code, by rw [ho]; exact hasks, by rw [ho]; exact hsent⟩)
    · have hhist := phone_of_history hw hnew hpre hpreIn (World.phone?_of_account? (account?_of_find? hsound hf))
      obtain ⟨number', hnumber', hproven⟩ := hhist.verified hverified
      obtain rfl : number' = number := Option.some.inj (hnumber'.symm.trans hnumber)
      exact .inr (.inr ⟨identifier, password, c, a, number', code, hstep, hf, hactive, hverified, hnumber, hproven,
        by rw [ho]; exact hsent⟩)

/-- A number whose code was submitted is proven. -/
theorem phone_proven_by_history_verified :
    Proven Setup.sample "1" "+34600000001" (entriesOf Setup.sample World.sample
      [.call (.initiatePhone "1" "+34600000001"), .call (.verifyPhone "1" "000000")]) := by
  have hin : IssuesInOrder Setup.sample (entriesOf Setup.sample World.sample
      [.call (.initiatePhone "1" "+34600000001"), .call (.verifyPhone "1" "000000")]) := by
    intro e he
    simp only [entriesOf_cons, entriesOf_nil, List.mem_cons, List.not_mem_nil, or_false] at he
    rcases he with rfl | rfl
    · refine ⟨nofun, fun id number hstep => ?_⟩
      cases hstep
      exact ⟨by decide, OtpChallenge.exists_drawnCode (by decide) (by decide) _, by decide +kernel⟩
    · exact ⟨nofun, nofun⟩
  have hstate : ((World.sample.through Setup.sample [.call (.initiatePhone "1" "+34600000001"),
      .call (.verifyPhone "1" "000000")]).account? "1").map (fun a => (a.credentials.phoneVerified, a.phoneNumber)) =
        some (true, some "+34600000001") := by decide +kernel
  obtain ⟨a, ha, hflags⟩ := Option.map_eq_some_iff.1 hstate
  rw [Prod.mk.injEq] at hflags
  obtain ⟨number, hnumber, hproven⟩ := ((phone_proven_by_history World.sound_sample World.isNew_sample
    (.of_steps Setup.sample World.sample _) hin).1 "1" a ha).1 hflags.1
  rw [hflags.2, Option.some.injEq] at hnumber
  exact hnumber ▸ hproven

/-! ## Numbers without a code -/

/-- Codes with more digits than a number may have. -/
def OtpConfig.wordy : OtpConfig := { codeLength := Text.maxIntegerDigits + 1 }

/-- Settings with such codes. -/
def Setup.wordy (draws : Nat → Nat) : Setup :=
  { Setup.sample with phoneOtp := .wordy, sources := { Setup.sample.sources with draws } }

/-- The state after a first number was given. -/
def World.asked (draws : Nat → Nat) : World MemoryStore :=
  ((Operation.initiatePhone "1" "+34600000001").run (Setup.wordy draws) World.sample).2

/-- The state after a second number was given. -/
def World.stale (draws : Nat → Nat) : World MemoryStore :=
  ((Operation.initiatePhone "1" "+34600000002").run (Setup.wordy draws) (World.asked draws)).2

section Wordy
-- the numbers stay a variable here, so that no proof computes them
variable {draws : Nat → Nat}

theorem otpBound_succ (k : Nat) : otpBound (k + 1) = 10 ^ k * 10 := by
  rw [← Nat.pow_succ]
  rfl

theorem drawnCode_wordy_of_lt {n : Nat} (hn : n < 10 ^ Text.maxIntegerDigits) :
    ∃ code, drawnCode OtpConfig.wordy.codeLength n = .ok code := by
  refine ⟨_, OtpChallenge.drawnCode_of_lt (by decide) ?_⟩
  rw [show OtpConfig.wordy.codeLength = Text.maxIntegerDigits + 1 from rfl, otpBound_succ]
  generalize 10 ^ Text.maxIntegerDigits = N at hn ⊢
  rw [Nat.mod_eq_of_lt] <;> omega

theorem drawnCode_wordy_of_eq {n : Nat} (hn : n = 10 ^ Text.maxIntegerDigits) :
    drawnCode OtpConfig.wordy.codeLength n = .error (.value (.tooManyDigits none)) := by
  have hpos : 0 < 10 ^ Text.maxIntegerDigits := Nat.pow_pos (by decide)
  refine OtpChallenge.drawnCode_of_le (by decide) ?_
  rw [show OtpConfig.wordy.codeLength = Text.maxIntegerDigits + 1 from rfl, otpBound_succ]
  generalize 10 ^ Text.maxIntegerDigits = N at hn hpos ⊢
  rw [Nat.mod_eq_of_lt] <;> omega

theorem isSome_expiry_wordy : (DateTime.epoch.addMinutes? OtpConfig.wordy.ttlMinutes).isSome := by decide +kernel

theorem phone?_sample : World.sample.phone? "1" = some { number := some "+34600000000" } :=
  World.phone?_of_account? World.account?_sample_self

theorem sound_asked : (World.asked draws).Sound := sound_step World.sound_sample (.call _)

theorem sound_stale : (World.stale draws).Sound := sound_step sound_asked (.call _)

theorem clock_asked : (World.asked draws).clock = .epoch := clock_call World.sound_sample _

theorem clock_stale : (World.stale draws).clock = .epoch := (clock_call sound_asked _).trans clock_asked

theorem drawn_asked : (World.asked draws).drawn = 1 :=
  (Operation.phone?_initiate (Setup.wordy draws) World.sound_sample phone?_sample (by decide)).1

variable (h₀ : draws 0 < 10 ^ Text.maxIntegerDigits) (h₁ : draws 1 = 10 ^ Text.maxIntegerDigits)
include h₀ h₁

/-- The first code still waits, for a number that it was not made for. -/
theorem exists_phone_stale : ∃ code t, DateTime.epoch.addMinutes? OtpConfig.wordy.ttlMinutes = some t ∧
    (World.stale draws).phone? "1" =
      some ({ number := some "+34600000002" : Phone }.awaiting code t .phoneVerification) := by
  obtain ⟨-, ⟨code, t, -, ht, hfirst, -⟩ | ⟨⟨f, hf⟩ | hnone, -, -⟩⟩ := Operation.phone?_initiate (Setup.wordy draws)
    World.sound_sample phone?_sample (show "+34600000001" ≠ "" by decide)
  · have hself := congrFun hfirst "1"
    rw [Function.update_self] at hself
    obtain ⟨-, ⟨_, _, hcode, -⟩ | ⟨-, hsecond, -⟩⟩ := Operation.phone?_initiate (Setup.wordy draws) sound_asked hself
      (show "+34600000002" ≠ "" by decide)
    · rw [drawn_asked] at hcode
      exact absurd (hcode.symm.trans (drawnCode_wordy_of_eq h₁)) nofun
    · refine ⟨code, t, ht, (congrFun hsecond "1").trans ?_⟩
      rw [Function.update_self]
      simp [Phone.moved, Phone.awaiting]
  · obtain ⟨code, hcode⟩ := drawnCode_wordy_of_lt h₀
    exact absurd (hf.symm.trans hcode) nofun
  · have hexpiry := isSome_expiry_wordy
    rw [show DateTime.epoch.addMinutes? OtpConfig.wordy.ttlMinutes = none from hnone] at hexpiry
    cases hexpiry

/-- That code is accepted, and marks the second number as verified. -/
theorem exists_phone_verified : ∃ code,
    ((Operation.verifyPhone "1" code).run (Setup.wordy draws) (World.stale draws)).2.phone? "1" =
      some { number := some "+34600000002", verified := true } := by
  obtain ⟨code, t, ht, hphone⟩ := exists_phone_stale h₀ h₁
  have hpending : OtpChallenge.pendingFor? ({ number := some "+34600000002" : Phone }.awaiting code t
      .phoneVerification).slot .phoneVerification = some code :=
    OtpChallenge.pendingFor?_eq_some.2 ⟨rfl, fun p hp => (Option.some.inj hp).symm⟩
  have htime : OtpChallenge.isExpired ({ number := some "+34600000002" : Phone }.awaiting code t
      .phoneVerification).slot (World.stale draws).clock = false := by
    show t.before (World.stale draws).clock = false
    rw [clock_stale, DateTime.before, DateTime.instant_of_addMinutes ht]
    decide +kernel
  have hverified := Operation.phone?_verifyPhone (Setup.wordy draws) sound_stale hphone hpending htime
  refine ⟨code, (congrFun hverified "1").trans ?_⟩
  rw [Function.update_self]
  rfl

theorem exists_unproven :
    ∃ es v a, Run (Setup.wordy draws) World.sample es v ∧
      (∀ e ∈ es, (∀ id purpose number, e.step ≠ .call (.issueOtp id purpose number)) ∧
        ∀ id number, e.step = .call (.initiatePhone id number) →
          number ≠ "" ∧ (e.before.clock.addMinutes? OtpConfig.wordy.ttlMinutes).isSome) ∧
      v.account? "1" = some a ∧ a.credentials.phoneVerified ∧ a.phoneNumber = some "+34600000002" ∧
      ¬ Proven (Setup.wordy draws) "1" "+34600000002" es := by
  obtain ⟨code, hphone⟩ := exists_phone_verified h₀ h₁
  obtain ⟨a, ha, hflags⟩ := World.exists_account_of_phone? hphone
  have hrun := Run.of_steps (Setup.wordy draws) World.sample [.call (.initiatePhone "1" "+34600000001"),
    .call (.initiatePhone "1" "+34600000002"), .call (.verifyPhone "1" code)]
  have hentries : entriesOf (Setup.wordy draws) World.sample [.call (.initiatePhone "1" "+34600000001"),
      .call (.initiatePhone "1" "+34600000002"), .call (.verifyPhone "1" code)] =
      [.of (Setup.wordy draws) (.call (.initiatePhone "1" "+34600000001")) World.sample,
        .of (Setup.wordy draws) (.call (.initiatePhone "1" "+34600000002")) (World.asked draws),
        .of (Setup.wordy draws) (.call (.verifyPhone "1" code)) (World.stale draws)] := rfl
  refine ⟨_, _, a, hrun, fun e he => ?_, ha, congrArg Phone.verified hflags, congrArg Phone.number hflags, ?_⟩
  · rw [hentries] at he
    simp only [List.mem_cons, List.not_mem_nil, or_false] at he
    rcases he with rfl | rfl | rfl
    · refine ⟨nofun, fun id number hstep => ?_⟩
      cases hstep
      exact ⟨by decide, isSome_expiry_wordy⟩
    · refine ⟨nofun, fun id number hstep => ?_⟩
      cases hstep
      rw [Entry.of_before, clock_asked]
      exact ⟨by decide, isSome_expiry_wordy⟩
    · exact ⟨nofun, nofun⟩
  · rintro ⟨pre, e, mid, e', post, code', hes, ⟨hstep, hdrawn⟩, -⟩
    have he : e ∈ pre ++ e :: (mid ++ e' :: post) := by simp
    rw [← hes, hentries] at he
    simp only [List.mem_cons, List.not_mem_nil, or_false] at he
    rcases he with rfl | rfl | rfl
    · simp at hstep
    · rw [Entry.of_before, drawn_asked] at hdrawn
      exact absurd (hdrawn.symm.trans (drawnCode_wordy_of_eq h₁)) nofun
    · cases hstep

end Wordy

/-- Where a verification cannot get a code, the number changes all the same, and a code that was made for another
number verifies it. -/
theorem verified_unproven :
    (∀ id a, World.sample.account? id = some a → a.IsNew) ∧
    ∃ es v a, Run (Setup.wordy fun k => 10 ^ Text.maxIntegerDigits - 1 + k) World.sample es v ∧
      (∀ e ∈ es, (∀ id purpose number, e.step ≠ .call (.issueOtp id purpose number)) ∧
        ∀ id number, e.step = .call (.initiatePhone id number) → number ≠ "" ∧ (e.before.clock.addMinutes?
          (Setup.wordy fun k => 10 ^ Text.maxIntegerDigits - 1 + k).phoneOtp.ttlMinutes).isSome) ∧
      v.account? "1" = some a ∧ a.credentials.phoneVerified ∧ a.phoneNumber = some "+34600000002" ∧
      ¬ Proven (Setup.wordy fun k => 10 ^ Text.maxIntegerDigits - 1 + k) "1" "+34600000002" es := by
  have hpos : 0 < 10 ^ Text.maxIntegerDigits := Nat.pow_pos (by decide)
  refine ⟨World.isNew_sample, exists_unproven ?_ ?_⟩
  · generalize 10 ^ Text.maxIntegerDigits = N at hpos ⊢
    omega
  · generalize 10 ^ Text.maxIntegerDigits = N at hpos ⊢
    omega

end AccountSecurity
