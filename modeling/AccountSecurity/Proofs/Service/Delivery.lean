import AccountSecurity.Proofs.Service.Operation

/-!
# Messages that cannot be sent

A call whose carrier meets an error is compared with the same call under a carrier that works.

* `World.restored` : the state with a carrier that works;
* `Undelivered` : a refusal for the carrier's error, with no session, no event and no message;
* `undelivered_issue`, `undelivered_initiate`, `undelivered_login` : the three calls that send codes;
* `Operation.undelivered_run` : **every call** that would send a message.
-/

namespace AccountSecurity
open World
variable {S : Type} {w v : World S} {setup : Setup} {o : Outage}

/-- The state with a carrier that works. -/
def World.restored (w : World S) : World S := { w with outage := none }

/-- The call is refused for the error that the carrier met. It changes no session, records no event, sends nothing. -/
structure Undelivered {α : Type} (setup : Setup) (o : Outage) (w : World S) (r : Except Failure α × World S) : Prop
    where
  refused : r.1 = .error (.refused (.smsDelivery (setup.carrier.problem o)))
  sessions : r.2.sessions = w.sessions
  audit : r.2.audit = w.audit
  outbox : r.2.outbox = w.outbox

namespace Undelivered
variable {α β : Type} {r : Except Failure α × World S}

theorem map (h : Undelivered setup o w r) (f : α → β) : Undelivered setup o w (r.1.map f, r.2) where
  refused := by
    rw [h.refused]
    rfl
  sessions := h.sessions
  audit := h.audit
  outbox := h.outbox

/-- What was written to the store before is no matter. -/
theorem congr (h : Undelivered setup o v r) (hs : v.sessions = w.sessions) (ha : v.audit = w.audit)
    (hm : v.outbox = w.outbox) : Undelivered setup o w r :=
  ⟨h.refused, h.sessions.trans hs, h.audit.trans ha, h.outbox.trans hm⟩

end Undelivered

variable [AccountStore S] [LawfulStore S]

theorem World.Sound.restored (h : w.Sound) : w.restored.Sound := h.congr rfl rfl

/-- An issue that would send its code stores it and is refused. -/
theorem undelivered_issue (h : w.Sound) (ho : w.outage = some o) (config : OtpConfig) (id : String)
    (purpose : OtpPurpose) (number : Option String)
    (hs : ((OtpChallenge.issue setup config id purpose number).runOn w.restored).2.outbox ≠ w.outbox) :
    Undelivered setup o w ((OtpChallenge.issue setup config id purpose number).runOn w) := by
  have hends := OtpChallenge.ends_issue h.restored setup config id purpose number
  generalize (OtpChallenge.issue setup config id purpose number).runOn w.restored = r at hends hs
  cases hends with
  | missing ha => exact absurd rfl hs
  | numberless ha hn => exact absurd rfl hs
  | undrawn hd => exact absurd rfl hs
  | endless ht => exact absurd rfl hs
  | undelivered hstores ho' => cases ho'
  | sent hstores hn ho' =>
    have ha : w.account? id = some _ := hstores.account
    have hd : drawnCode config.codeLength (setup.sources.draws w.drawn) = _ := hstores.drawn
    have ht : w.clock.addMinutes? config.ttlMinutes = some _ := hstores.expiry
    rw [OtpChallenge.runOn_issue h, ha]
    dsimp only
    rw [hn]
    dsimp only
    rw [hd, ht, ho]
    exact ⟨rfl, rfl, rfl, rfl⟩

/-- A number is stored even if its code cannot be sent. -/
theorem undelivered_initiate (h : w.Sound) (ho : w.outage = some o) (id number : String)
    (hs : ((SmsFactor.initiate setup id number).runOn w.restored).2.outbox ≠ w.outbox) :
    Undelivered setup o w ((SmsFactor.initiate setup id number).runOn w) := by
  rw [SmsFactor.runOn_initiate h.restored] at hs
  rw [SmsFactor.runOn_initiate h]
  cases ha : w.account? id with
  | none =>
    rw [show w.restored.account? id = none from ha] at hs
    exact absurd rfl hs
  | some a =>
    rw [show w.restored.account? id = some a from ha] at hs
    have hmoved := SmsFactor.sound_moved h ha number
    dsimp only at hs ⊢
    unfold SmsFactor.moved at hs hmoved ⊢
    split at hs
    · next hn =>
      rw [if_pos hn]
      exact undelivered_issue h ho _ _ _ _ hs
    · next hn =>
      rw [if_neg hn] at hmoved ⊢
      exact (undelivered_issue hmoved ho _ _ _ _ hs).congr rfl rfl rfl

/-- A login with the right password that would send a code is refused. -/
theorem undelivered_login (h : w.Sound) (ho : w.outage = some o) (identifier password : String)
    (c : Option RequestContext)
    (hs : ((Login.login setup identifier password c).runOn w.restored).2.outbox ≠ w.outbox) :
    Undelivered setup o w ((Login.login setup identifier password c).runOn w) := by
  have hends := Login.ends_login setup h.restored identifier password c
  generalize (Login.login setup identifier password c).runOn w.restored = r at hends hs
  cases hends with
  | unknown hf => exact absurd rfl hs
  | locked hf hl => exact absurd rfl hs
  | broken hf hl hx => exact absurd rfl hs
  | rejected hc hm => exact absurd rfl hs
  | lockedOut hc hm ht => exact absurd rfl hs
  | endless hc hm ht => exact absurd rfl hs
  | unverified hc he => exact absurd rfl hs
  | numberless hc he hsms hn => exact absurd rfl hs
  | @opened a newHash hc he hsms => exact absurd (Operation.outbox_complete (hc.sound h.restored) a c) hs
  | @challenged a newHash n hc he hsms hn =>
    -- the way to the message does not depend on the carrier
    have hc' : Login.Admitted setup identifier password w a newHash :=
      ⟨⟨hc.found, hc.unlocked, hc.verdict, hc.counted⟩, hc.upgraded⟩
    rw [Login.runOn_login h, hc'.found]
    dsimp only
    rw [if_neg (by simp [hc'.unlocked]), hc'.verdict]
    dsimp only
    rw [if_neg (by simp [hc'.counted]), hc'.upgraded]
    dsimp only
    rw [← Login.admitted, Login.runOn_proceed (hc'.sound h), if_neg (by simp [he]), if_pos hsms, hn]
    exact ((undelivered_issue (hc'.sound h) ho _ _ _ _ hs).map _).congr rfl rfl rfl

/-- **Every call** that would send a message is refused when the carrier meets an error. -/
theorem Operation.undelivered_run (h : w.Sound) (ho : w.outage = some o) (op : Operation)
    (hs : (op.run setup w.restored).2.outbox ≠ w.outbox) : Undelivered setup o w (op.run setup w) := by
  cases ht : op.mayText with
  | false => exact absurd (outbox_run h.restored op ht) hs
  | true =>
    cases op with
    | login identifier password c =>
      rw [run_login setup h.restored] at hs
      rw [run_login setup h]
      exact (undelivered_login h ho identifier password c hs).map _
    | issueOtp id purpose number =>
      rw [run_issueOtp] at hs ⊢
      exact (undelivered_issue h ho _ _ _ _ hs).map _
    | initiatePhone id number =>
      rw [run_initiatePhone] at hs ⊢
      exact (undelivered_initiate h ho id number hs).map _
    | _ => cases ht

end AccountSecurity
