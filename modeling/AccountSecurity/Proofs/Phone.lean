import AccountSecurity.Proofs.Coherence

/-!
# The phone of an account

The number of an account is stored with it, and the flags and the slot for codes with its credentials, so that a call
that changes the number writes twice. What a step does to all of them at once is said here.

* `Phone`, `World.phone?` : the number of an account with its flags and the slot for codes;
* `Entry.Asks`, `Entry.Answers` : the calls that send a code to a number, and those that accept it;
* `Entry.ActsOnPhone`, `actsOnPhone` : what a step does to the phone of an account;
* `outbox_step` : the message that a step sends, and to whom.
-/

namespace AccountSecurity
open World

/-- The number of an account, whether it is verified and the factor is on, and the slot for codes. -/
structure Phone where
  number : Option String
  verified : Bool := false
  active : Bool := false
  slot : OtpSlot := {}

namespace Phone

/-- The phone under a number. A new number is not verified. -/
def moved (p : Phone) (number : String) : Phone :=
  if p.number = some number then p else { p with number := some number, verified := false, active := false }

/-- The phone with a code in its slot. -/
def awaiting (p : Phone) (code : String) (expiresAt : DateTime) (purpose : OtpPurpose) : Phone :=
  { p with slot := ⟨some code, some expiresAt, some purpose⟩ }

@[simp] theorem moved_number (p : Phone) (number : String) : (p.moved number).number = some number := by
  unfold moved
  split
  · next h => exact h
  · rfl

/-- What is verified of a moved phone was verified for the same number. -/
theorem verified_of_moved {p : Phone} {number : String} (h : (p.moved number).verified) :
    p.verified ∧ p.number = some number := by
  unfold moved at h
  split at h
  · next hn => exact ⟨h, hn⟩
  · cases h

theorem active_of_moved {p : Phone} {number : String} (h : (p.moved number).active) :
    p.active ∧ p.moved number = p := by
  unfold moved at h ⊢
  split at h
  · next hn => exact ⟨h, if_pos hn⟩
  · cases h

end Phone

/-- The phone of an account. -/
def Account.phone (a : Account) : Phone :=
  ⟨a.phoneNumber, a.credentials.phoneVerified, a.credentials.smsEnabled, a.credentials.otp⟩

variable {S : Type}

/-- The entry accepted a code that verifies a number. -/
def Entry.Answers (id code : String) (e : Entry S) : Prop :=
  ∃ op r, e.step = .call op ∧ op.check? = some (id, code, .phoneVerification) ∧ e.result = .ok r

/-- The entry started the verification of a number, with this code. -/
def Entry.Asks (setup : Setup) (id number code : String) (e : Entry S) : Prop :=
  e.step = .call (.initiatePhone id number) ∧
    drawnCode setup.phoneOtp.codeLength (setup.sources.draws e.before.drawn) = .ok code

/-- A code is issued by logins and verifications of numbers only, and every verification that is started is one of a
number, gets a code and can tell its expiry. -/
def Step.IssuesInOrder (setup : Setup) (v : World S) (s : Step) : Prop :=
  (∀ id purpose number, s ≠ .call (.issueOtp id purpose number)) ∧
  ∀ id number, s = .call (.initiatePhone id number) → number ≠ "" ∧
    (∃ code, drawnCode setup.phoneOtp.codeLength (setup.sources.draws v.drawn) = .ok code) ∧
    (v.clock.addMinutes? setup.phoneOtp.ttlMinutes).isSome

/-! ## What a step may do -/

/-- What an entry does to the phone of an account. -/
inductive Entry.ActsOnPhone (setup : Setup) (id : String) (e : Entry S) : Option Phone → Option Phone → Prop
  | quiet {o : Option Phone} : e.ActsOnPhone setup id o o
  | registered {number : Option String} : e.ActsOnPhone setup id none (some { number })
  | initiated {p : Phone} {number code : String} {t : DateTime} (ha : e.Asks setup id number code) :
      e.ActsOnPhone setup id (some p) (some ((p.moved number).awaiting code t .phoneVerification))
  | challenged {p : Phone} {code : String} {t : DateTime} (hactive : p.active) (hv : p.verified) :
      e.ActsOnPhone setup id (some p) (some (p.awaiting code t .loginChallenge))
  | swept {p : Phone} (hcode : p.slot.code = none) :
      e.ActsOnPhone setup id (some p) (some { p with slot.expiresAt := none })
  | emptied {p : Phone} : e.ActsOnPhone setup id (some p) (some { p with slot := {} })
  | confirmed {p : Phone} {code : String} (ha : e.Answers id code)
      (hp : OtpChallenge.pendingFor? p.slot .phoneVerification = some code) :
      e.ActsOnPhone setup id (some p) (some { p with verified := true, slot := {} })
  | enabled {p : Phone} (hv : p.verified) : e.ActsOnPhone setup id (some p) (some { p with active := true })
  | disabled {p : Phone} : e.ActsOnPhone setup id (some p) (some { p with active := false, slot := {} })

namespace Entry.ActsOnPhone
variable {setup : Setup} {e : Entry S} {id i : String} {p q : Phone}

theorem of_eq {o o' : Option Phone} (h : o' = o) : e.ActsOnPhone setup id o o' := by
  rw [h]
  exact .quiet

theorem of_update {o : String → Option Phone} (hp : o i = some p)
    (hact : i = id → e.ActsOnPhone setup id (some p) (some q)) :
    e.ActsOnPhone setup id (o id) (Function.update o i (some q) id) := by
  by_cases hi : i = id
  · subst hi
    rw [Function.update_self, hp]
    exact hact rfl
  · rw [Function.update_of_ne (Ne.symm hi)]
    exact .quiet

end Entry.ActsOnPhone

/-! ## Phones under the calls -/

variable [AccountStore S] [LawfulStore S] {setup : Setup} {w v : World S} {id i : String} {a : Account} {p q : Phone}

/-- The phone of an account. -/
def World.phone? (w : World S) (id : String) : Option Phone := w.part? Account.phone id

theorem World.phone?_of_account? (ha : w.account? id = some a) : w.phone? id = some a.phone := part?_of_account? ha

theorem World.phone?_congr (h : v.account? = w.account?) : v.phone? = w.phone? := part?_congr h

theorem World.phone?_of_update {a' : Account} (h : v.account? = Function.update w.account? id (some a')) :
    v.phone? = Function.update w.phone? id (some a'.phone) := part?_of_update h

theorem World.phone?_of_update_same {a' : Account} (ha : w.account? id = some a)
    (h : v.account? = Function.update w.account? id (some a')) (hp : a'.phone = a.phone) : v.phone? = w.phone? :=
  part?_of_update_same ha h hp

theorem World.exists_account_of_phone? (hp : w.phone? id = some p) : ∃ a, w.account? id = some a ∧ a.phone = p :=
  Option.map_eq_some_iff.1 hp

theorem SmsFactor.phone?_moved (h : v.Sound) (ha : v.account? i = some a) (number : String) :
    (moved i number a v).phone? = Function.update v.phone? i (some (a.phone.moved number)) := by
  unfold moved Phone.moved
  by_cases hn : a.phoneNumber = some number
  · rw [if_pos hn, if_pos (show a.phone.number = some number from hn), ← World.phone?_of_account? ha,
      Function.update_eq_self]
  · rw [if_neg hn, if_neg (show ¬ a.phone.number = some number from hn)]
    have hself := account?_renumbered_self h ha (some number)
    have hacc := account?_changed (h.renumbered ha (some number)) hself storable_unproven
    rw [account?_renumbered h ha, Function.update_idem] at hacc
    exact World.phone?_of_update hacc

/-- A code that is stored waits in the slot. -/
theorem OtpChallenge.phone?_stored (h : v.Sound) {config : OtpConfig} {code : String} {t : DateTime}
    (hs : Stores setup config i v a code t) (purpose : OtpPurpose) :
    (stored i code t purpose v).phone? = Function.update v.phone? i (some (a.phone.awaiting code t purpose)) :=
  World.phone?_of_update (hs.account?_stored h purpose)

/-- Starting the verification of a number takes a random number and moves the phone. The code goes into the slot if
there is one and its expiry can be told, and to that number only. -/
theorem Operation.phone?_initiate (setup : Setup) (h : v.Sound) (hp : v.phone? i = some p) {number : String}
    (hn : number ≠ "") :
    ((initiatePhone i number).run setup v).2.drawn = v.drawn + 1 ∧
    ((∃ code t, drawnCode setup.phoneOtp.codeLength (setup.sources.draws v.drawn) = .ok code ∧
      v.clock.addMinutes? setup.phoneOtp.ttlMinutes = some t ∧
      ((initiatePhone i number).run setup v).2.phone? =
        Function.update v.phone? i (some ((p.moved number).awaiting code t .phoneVerification)) ∧
      (((initiatePhone i number).run setup v).2.outbox = v.outbox ∨
        ((initiatePhone i number).run setup v).2.outbox =
          v.outbox ++ [⟨number, otpMessage setup.phoneOtp number code⟩])) ∨
    (((∃ f, drawnCode setup.phoneOtp.codeLength (setup.sources.draws v.drawn) = .error f) ∨
        v.clock.addMinutes? setup.phoneOtp.ttlMinutes = none) ∧
      ((initiatePhone i number).run setup v).2.phone? = Function.update v.phone? i (some (p.moved number)) ∧
      ((initiatePhone i number).run setup v).2.outbox = v.outbox)) := by
  obtain ⟨a, ha, rfl⟩ := World.exists_account_of_phone? hp
  have hmoved := SmsFactor.phone?_moved h ha number
  have hself : (SmsFactor.moved i number a v).phone? i = some (a.phone.moved number) := by
    rw [hmoved, Function.update_self]
  obtain ⟨hdrawn, hclock, houtbox⟩ : (SmsFactor.moved i number a v).drawn = v.drawn ∧
      (SmsFactor.moved i number a v).clock = v.clock ∧ (SmsFactor.moved i number a v).outbox = v.outbox := by
    unfold SmsFactor.moved
    split <;> exact ⟨rfl, rfl, rfl⟩
  have hstored : ∀ b code t, OtpChallenge.Stores setup setup.phoneOtp i (SmsFactor.moved i number a v) b code t →
      (OtpChallenge.stored i code t .phoneVerification (SmsFactor.moved i number a v)).phone? =
        Function.update v.phone? i (some ((a.phone.moved number).awaiting code t .phoneVerification)) := by
    intro b code t hs
    have hb : b.phone = a.phone.moved number := by
      rw [World.phone?_of_account? hs.account] at hself
      exact Option.some.inj hself
    rw [OtpChallenge.phone?_stored (SmsFactor.sound_moved h ha number) hs, hmoved, Function.update_idem, hb]
  have hends := OtpChallenge.ends_issue (SmsFactor.sound_moved h ha number) setup setup.phoneOtp i .phoneVerification
    (some number)
  rw [run_initiatePhone, SmsFactor.runOn_initiate h, ha]
  dsimp only
  generalize (OtpChallenge.issue setup setup.phoneOtp i .phoneVerification (some number)).runOn
    (SmsFactor.moved i number a v) = r at hends ⊢
  cases hends with
  | missing hnone =>
    rw [World.phone?, part?, hnone] at hself
    cases hself
  | numberless hb hnumber =>
    rw [OtpChallenge.nonempty?_eq_some.2 ⟨rfl, hn⟩] at hnumber
    cases hnumber
  | undrawn hd => exact ⟨congrArg (· + 1) hdrawn, .inr ⟨.inl ⟨_, hdrawn ▸ hd⟩, hmoved, houtbox⟩⟩
  | endless ht => exact ⟨congrArg (· + 1) hdrawn, .inr ⟨.inr (hclock ▸ ht), hmoved, houtbox⟩⟩
  | @undelivered b code t o hs ho =>
    exact ⟨congrArg (· + 1) hdrawn,
      .inl ⟨code, t, hdrawn ▸ hs.drawn, hclock ▸ hs.expiry, hstored b code t hs, .inl houtbox⟩⟩
  | @sent b code destination t hs hd ho =>
    rw [OtpChallenge.nonempty?_eq_some.2 ⟨rfl, hn⟩, Option.some_or, Option.some.injEq] at hd
    subst hd
    refine ⟨congrArg (· + 1) hdrawn, .inl ⟨code, t, hdrawn ▸ hs.drawn, hclock ▸ hs.expiry, ?_, .inr ?_⟩⟩
    · exact (World.phone?_congr rfl).trans (hstored b code t hs)
    · exact congrArg (· ++ [_]) houtbox

/-- The code that waits verifies the number, in time. -/
theorem Operation.phone?_verifyPhone (setup : Setup) (h : v.Sound) (hp : v.phone? i = some p) {code : String}
    (hcode : OtpChallenge.pendingFor? p.slot .phoneVerification = some code)
    (htime : OtpChallenge.isExpired p.slot v.clock = false) :
    ((verifyPhone i code).run setup v).2.phone? =
      Function.update v.phone? i (some { p with verified := true, slot := {} }) := by
  obtain ⟨a, ha, rfl⟩ := World.exists_account_of_phone? hp
  rw [run_verifyPhone, OtpChallenge.runOn_verify h, ha]
  dsimp only
  rw [show OtpChallenge.pendingFor? a.credentials.otp .phoneVerification = some code from hcode]
  dsimp only
  rw [show OtpChallenge.isExpired a.credentials.otp v.clock = false from htime, if_neg (by simp), if_neg (by simp)]
  exact World.phone?_of_update (account?_changed h ha (OtpChallenge.storable_acceptance .phoneVerification))

/-! ## One step -/

section Calls
variable {e : Entry S}

theorem actsOnPhone_login (h : v.Sound) (identifier password : String) (c : Option RequestContext) (id : String) :
    e.ActsOnPhone setup id (v.phone? id) (((Operation.login identifier password c).run setup v).2.phone? id) := by
  have hends := Login.ends_login setup h identifier password c
  rw [Operation.run_login setup h]
  generalize (Login.login setup identifier password c).runOn v = r at hends ⊢
  -- what a right password writes is none of the phone
  have hadmitted : ∀ a newHash, Login.Admitted setup identifier password v a newHash →
      (Login.admitted a newHash v).phone? = v.phone? := by
    intro a newHash hc
    refine World.phone?_of_update_same (hc.account? h) (hc.account?_admitted h) ?_
    obtain ⟨_, _, _, _, _, heq⟩ := Login.changed_acceptance v.clock a newHash
    rw [heq]
    rfl
  cases hends with
  | unknown hf => exact .quiet
  | locked hf hl => exact .quiet
  | broken hf hl hx => exact .quiet
  | rejected hc hm =>
    have hsame := World.phone?_of_update_same (hc.account? h) hc.account rfl
    exact .of_eq (congrFun hsame id)
  | @lockedOut a n t hc hm ht =>
    obtain ⟨-, hacc⟩ := hc.account?_lockedOut ((DateTime.offset_of_addMinutes ht).trans h.clock)
    have hsame := World.phone?_of_update_same (hc.account? h) hacc rfl
    exact .of_eq (congrFun hsame id)
  | endless hc hm ht =>
    have hsame := World.phone?_of_update_same (hc.account? h) hc.account rfl
    exact .of_eq (congrFun hsame id)
  | unverified hc he => exact .of_eq (congrFun (hadmitted _ _ hc) id)
  | numberless hc he hs hn => exact .of_eq (congrFun (hadmitted _ _ hc) id)
  | opened hc he hs =>
    refine .of_eq (congrFun (Eq.trans ?_ (hadmitted _ _ hc)) id)
    rw [Login.runOn_complete (hc.sound h)]
    split <;> rfl
  | @challenged a newHash n hc he hs hn =>
    have hsame := hadmitted a newHash hc
    obtain ⟨hactive, hverified⟩ : a.phone.active ∧ a.phone.verified := Bool.and_eq_true_iff.1 hs
    have hfound : v.phone? a.id = some a.phone := World.phone?_of_account? (hc.account? h)
    have hstored : ∀ b code t, OtpChallenge.Stores setup setup.otp a.id (Login.admitted a newHash v) b code t →
        e.ActsOnPhone setup id (v.phone? id)
          ((OtpChallenge.stored a.id code t .loginChallenge (Login.admitted a newHash v)).phone? id) := by
      intro b code t hs
      have hb : b.phone = a.phone := by
        rw [← hsame, World.phone?_of_account? hs.account] at hfound
        exact Option.some.inj hfound
      rw [OtpChallenge.phone?_stored (hc.sound h) hs, hsame, hb]
      exact .of_update hfound fun _ => .challenged hactive hverified
    have hissue := OtpChallenge.ends_issue (hc.sound h) setup setup.otp a.id .loginChallenge (some n)
    dsimp only
    generalize (OtpChallenge.issue setup setup.otp a.id .loginChallenge (some n)).runOn
      (Login.admitted a newHash v) = r at hissue ⊢
    cases hissue with
    | undelivered hs ho => exact hstored _ _ _ hs
    | sent hs hd ho => exact hstored _ _ _ hs
    | _ => exact .of_eq (congrFun hsame id)

/-- Checking a code empties the slot, drops an expiry that stands alone, verifies the number or changes nothing. -/
theorem actsOnPhone_check (setup : Setup) (h : v.Sound) (i submitted : String) (purpose : OtpPurpose)
    (hok : purpose = .phoneVerification → (∃ b, ((OtpChallenge.verify setup i submitted purpose).runOn v).1 = .ok b) →
      e.Answers i submitted) (id : String) :
    e.ActsOnPhone setup id (v.phone? id) (((OtpChallenge.verify setup i submitted purpose).runOn v).2.phone? id) := by
  have hends := OtpChallenge.ends_verify h setup i submitted purpose
  generalize (OtpChallenge.verify setup i submitted purpose).runOn v = r at hends hok ⊢
  cases hends with
  | missing ha => exact .quiet
  | @notPending a ha hp =>
    show e.ActsOnPhone setup id (v.phone? id) ((OtpChallenge.swept i a.credentials.otp v).phone? id)
    unfold OtpChallenge.swept
    split
    · next hs =>
      rw [World.phone?_of_update (account?_changed h ha OtpChallenge.storable_sweep)]
      exact .of_update (World.phone?_of_account? ha) fun _ => .swept (p := a.phone) (Option.isNone_iff_eq_none.1 hs.1)
    · exact .quiet
  | @expired a code ha hp he =>
    show e.ActsOnPhone setup id (v.phone? id) ((v.changed i CredentialChange.clearOtp).phone? id)
    rw [World.phone?_of_update (account?_changed h ha OtpChallenge.storable_clearOtp)]
    exact .of_update (World.phone?_of_account? ha) fun _ => .emptied (p := a.phone)
  | invalid ha hp he hc => exact .quiet
  | @accepted a ha hp he =>
    show e.ActsOnPhone setup id (v.phone? id) ((v.changed i (OtpChallenge.acceptance purpose)).phone? id)
    rw [World.phone?_of_update (account?_changed h ha (OtpChallenge.storable_acceptance purpose))]
    refine .of_update (World.phone?_of_account? ha) fun hi => ?_
    cases purpose with
    | loginChallenge => exact .emptied (p := a.phone)
    | phoneVerification => exact .confirmed (p := a.phone) (hi ▸ hok rfl ⟨a, rfl⟩) hp

theorem actsOnPhone_verifyOtp (h : v.Sound) (i code : String) (purpose : OtpPurpose) (id : String) :
    (Entry.of setup (.call (.verifyOtp i code purpose)) v).ActsOnPhone setup id (v.phone? id)
      (((Operation.verifyOtp i code purpose).run setup v).2.phone? id) := by
  rw [Operation.run_verifyOtp]
  refine actsOnPhone_check setup h i code purpose (fun hp ⟨b, hb⟩ => ⟨_, .account b, rfl, hp ▸ rfl, ?_⟩) id
  rw [Entry.of_result, Step.run_call, Operation.run_verifyOtp, hb]
  rfl

theorem actsOnPhone_verifyPhone (h : v.Sound) (i code id : String) :
    (Entry.of setup (.call (.verifyPhone i code)) v).ActsOnPhone setup id (v.phone? id)
      (((Operation.verifyPhone i code).run setup v).2.phone? id) := by
  rw [Operation.run_verifyPhone]
  refine actsOnPhone_check setup h i code .phoneVerification (fun _ ⟨b, hb⟩ => ⟨_, .flag true, rfl, rfl, ?_⟩) id
  rw [Entry.of_result, Step.run_call, Operation.run_verifyPhone, hb]
  rfl

theorem actsOnPhone_finish (h : v.Sound) (i code : String) (c : Option RequestContext) (id : String) :
    e.ActsOnPhone setup id (v.phone? id) (((Operation.finishLogin i code c).run setup v).2.phone? id) := by
  rw [World.phone?, World.phone?, Operation.part?_finishLogin setup h (fun _ _ => rfl)]
  exact actsOnPhone_check setup h i code .loginChallenge nofun id

theorem actsOnPhone_initiate (h : v.Sound) {number : String}
    (hin : (Step.call (.initiatePhone i number)).IssuesInOrder setup v) (id : String) :
    (Entry.of setup (.call (.initiatePhone i number)) v).ActsOnPhone setup id (v.phone? id)
      (((Operation.initiatePhone i number).run setup v).2.phone? id) := by
  obtain ⟨hn, ⟨code, hcode⟩, hexpiry⟩ := hin.2 i number rfl
  cases hp : v.phone? i with
  | none =>
    have ha : v.account? i = none := Option.map_eq_none_iff.1 hp
    rw [Operation.run_initiatePhone, SmsFactor.runOn_initiate h, ha]
    exact .quiet
  | some p =>
    obtain ⟨-, ⟨code', t, hcode', -, hphone, -⟩ | ⟨⟨f, hf⟩ | hnone, -, -⟩⟩ :=
      Operation.phone?_initiate setup h hp hn
    · rw [hphone]
      exact .of_update hp fun hi => .initiated ⟨hi ▸ rfl, hcode'⟩
    · rw [hcode] at hf
      cases hf
    · rw [hnone] at hexpiry
      cases hexpiry

theorem actsOnPhone_clear (h : v.Sound) (i id : String) :
    e.ActsOnPhone setup id (v.phone? id) (((Operation.clearOtp i).run setup v).2.phone? id) := by
  rw [Operation.run_clearOtp, OtpChallenge.runOn_clear h]
  cases ha : v.account? i with
  | none => exact .quiet
  | some a =>
    dsimp only
    rw [World.phone?_of_update (account?_changed h ha OtpChallenge.storable_clearOtp)]
    exact .of_update (World.phone?_of_account? ha) fun _ => .emptied (p := a.phone)

theorem actsOnPhone_enable (h : v.Sound) (i id : String) :
    e.ActsOnPhone setup id (v.phone? id) (((Operation.enableSms i).run setup v).2.phone? id) := by
  show e.ActsOnPhone setup id (v.phone? id) (((Reply.flag <$> SmsFactor.enable setup i).runOn v).2.phone? id)
  rw [Action.runOn_map, SmsFactor.runOn_enable h]
  cases ha : v.account? i with
  | none => exact .quiet
  | some a =>
    dsimp only
    split
    · exact .quiet
    · next hn =>
      have hv : a.credentials.phoneVerified := by simpa using (not_or.1 hn).2
      show e.ActsOnPhone setup id (v.phone? id) ((v.changed i [.smsEnabled true]).phone? id)
      rw [World.phone?_of_update (account?_changed h ha (SmsFactor.storable_smsEnabled true))]
      exact .of_update (World.phone?_of_account? ha) fun _ => .enabled (p := a.phone) hv

theorem actsOnPhone_disable (h : v.Sound) (i id : String) :
    e.ActsOnPhone setup id (v.phone? id) (((Operation.disableSms i).run setup v).2.phone? id) := by
  show e.ActsOnPhone setup id (v.phone? id) (((Reply.flag <$> SmsFactor.disable setup i).runOn v).2.phone? id)
  rw [Action.runOn_map, SmsFactor.runOn_disable h]
  cases ha : v.account? i with
  | none => exact .quiet
  | some a =>
    have hs : Storable (LawfulStore.Keeps S) _ := SmsFactor.storable_smsEnabled false
    have hself := account?_changed_self h ha hs
    have hacc := account?_changed (h.changed ha hs) hself OtpChallenge.storable_clearOtp
    rw [account?_changed h ha hs, Function.update_idem] at hacc
    dsimp only
    split
    · exact .quiet
    · show e.ActsOnPhone setup id (v.phone? id)
        (((v.changed i [.smsEnabled false]).changed i CredentialChange.clearOtp).phone? id)
      rw [World.phone?_of_update hacc]
      exact .of_update (World.phone?_of_account? ha) fun _ => .disabled (p := a.phone)

end Calls

/-- The call may change the phone of an account. -/
def Operation.touchesPhone : Operation → Bool
  | login .. | finishLogin .. | issueOtp .. | verifyOtp .. | clearOtp .. | initiatePhone .. | verifyPhone ..
  | enableSms .. | disableSms .. => true
  | _ => false

theorem Operation.touchesPhone_of_check? {op : Operation} (h : op.check?.isSome) : op.touchesPhone := by
  cases op with
  | finishLogin | verifyOtp | verifyPhone => rfl
  | _ => cases h

theorem Write.phone_eq {now : DateTime} {op : Operation} {a' : Account} (hw : Write setup now op a a')
    (ht : op.touchesPhone = false) : a'.phone = a.phone := by
  cases hw with
  | swept hc _ | expired hc => simp [Operation.touchesPhone_of_check? hc] at ht
  | verified hc => simp [Operation.touchesPhone_of_check? (Option.isSome_of_eq_some hc)] at ht
  | secretMade | totpEnabled | totpDisabled | codeMade | codeSpent => rfl
  | _ => cases ht

/-- Steps that are none of these calls leave the phones alone, or register one that is not verified. -/
theorem actsOnPhone_quiet (h : v.Sound) {s : Step} (hs : ∀ op, s = .call op → op.touchesPhone = false) (id : String)
    {e : Entry S} : e.ActsOnPhone setup id (v.phone? id) ((s.run setup v).2.phone? id) := by
  have hnew : ∀ (op : Operation) a, op.Creates setup a → ∃ number, a.phone = ({ number } : Phone) := by
    rintro op a ⟨_, passwordHash, -, -, hc⟩
    exact ⟨a.phoneNumber, by rw [Account.phone, hc]⟩
  obtain hsame | ⟨hnone, b, hb, number, rfl⟩ := step_map (P := fun p => ∃ number, p = ({ number } : Phone)) h s
      (fun op a a' hop hw => hw.phone_eq (hs op hop)) hnew (fun _ => rfl) id
  · exact .of_eq hsame
  · have hbefore : v.phone? id = none := by rw [World.phone?, part?, hnone, Option.map_none]
    have hafter : (s.run setup v).2.phone? id = some { number } := hb
    rw [hbefore, hafter]
    exact .registered

/-- **Every step** in order does one of these things to the phone of an account. -/
theorem actsOnPhone (h : v.Sound) (s : Step) (hin : s.IssuesInOrder setup v) (id : String) :
    (Entry.of setup s v).ActsOnPhone setup id (v.phone? id) ((s.run setup v).2.phone? id) := by
  cases s with
  | call op =>
    cases op with
    | login identifier password c => exact actsOnPhone_login h identifier password c id
    | finishLogin i code c => exact actsOnPhone_finish h i code c id
    | issueOtp i purpose number => exact absurd rfl (hin.1 i purpose number)
    | verifyOtp i code purpose => exact actsOnPhone_verifyOtp h i code purpose id
    | clearOtp i => exact actsOnPhone_clear h i id
    | initiatePhone i number => exact actsOnPhone_initiate h hin id
    | verifyPhone i code => exact actsOnPhone_verifyPhone h i code id
    | enableSms i => exact actsOnPhone_enable h i id
    | disableSms i => exact actsOnPhone_disable h i id
    | _ =>
      refine actsOnPhone_quiet h (fun op hop => ?_) id
      cases hop
      rfl
  | _ => exact actsOnPhone_quiet h (fun op hop => by cases hop) id

/-! ## Messages -/

/-- A login sends at most the code of its account, to its number, with the factor on. -/
theorem outbox_login (setup : Setup) (h : v.Sound) (identifier password : String) (c : Option RequestContext) :
    ((Operation.login identifier password c).run setup v).2.outbox = v.outbox ∨
    ∃ a number code, v.find? identifier = some a ∧ a.credentials.smsEnabled ∧ a.credentials.phoneVerified ∧
      a.phoneNumber = some number ∧ ((Operation.login identifier password c).run setup v).2.outbox =
        v.outbox ++ [⟨number, otpMessage setup.otp number code⟩] := by
  have hends := Login.ends_login setup h identifier password c
  rw [Operation.run_login setup h]
  generalize (Login.login setup identifier password c).runOn v = r at hends ⊢
  cases hends with
  | opened hc he hs => exact .inl (Operation.outbox_complete (hc.sound h) ..)
  | @challenged a newHash number hc he hs hn =>
    obtain ⟨hactive, hverified⟩ := Bool.and_eq_true_iff.1 hs
    obtain ⟨hnumber, hne⟩ := OtpChallenge.nonempty?_eq_some.1 hn
    have hissue := OtpChallenge.ends_issue (hc.sound h) setup setup.otp a.id .loginChallenge (some number)
    dsimp only
    generalize (OtpChallenge.issue setup setup.otp a.id .loginChallenge (some number)).runOn
      (Login.admitted a newHash v) = r at hissue ⊢
    cases hissue with
    | @sent b code destination t hs hd ho =>
      rw [OtpChallenge.nonempty?_eq_some.2 ⟨rfl, hne⟩, Option.some_or, Option.some.injEq] at hd
      rw [hd] at hnumber
      exact .inr ⟨a, destination, code, hc.found, hactive, hverified, hnumber, rfl⟩
    | _ => exact .inl rfl
  | _ => exact .inl rfl

/-- Every message is that of a verification, to its number, or that of a login, to the number of an account with the
factor on. -/
theorem outbox_step (h : v.Sound) (s : Step) (hin : s.IssuesInOrder setup v) :
    (s.run setup v).2.outbox = v.outbox ∨
    (∃ id number code, (Entry.of setup s v).Asks setup id number code ∧
      (s.run setup v).2.outbox = v.outbox ++ [⟨number, otpMessage setup.phoneOtp number code⟩]) ∨
    ∃ identifier password c a number code, s = .call (.login identifier password c) ∧
      v.find? identifier = some a ∧ a.credentials.smsEnabled ∧ a.credentials.phoneVerified ∧
      a.phoneNumber = some number ∧
      (s.run setup v).2.outbox = v.outbox ++ [⟨number, otpMessage setup.otp number code⟩] := by
  cases s with
  | call op =>
    cases op with
    | login identifier password c =>
      obtain hsame | ⟨a, number, code, ha⟩ := outbox_login setup h identifier password c
      · exact .inl hsame
      · exact .inr (.inr ⟨identifier, password, c, a, number, code, rfl, ha⟩)
    | initiatePhone i number =>
      obtain ⟨hn, -, -⟩ := hin.2 i number rfl
      cases hp : v.phone? i with
      | none =>
        rw [Step.run_call, Operation.run_initiatePhone, SmsFactor.runOn_initiate h,
          show v.account? i = none from Option.map_eq_none_iff.1 hp]
        exact .inl rfl
      | some p =>
        obtain ⟨-, ⟨code, t, hcode, -, -, hsame | hsent⟩ | ⟨-, -, hsame⟩⟩ := Operation.phone?_initiate setup h hp hn
        · exact .inl hsame
        · exact .inr (.inl ⟨i, number, code, ⟨rfl, hcode⟩, hsent⟩)
        · exact .inl hsame
    | issueOtp i purpose number => exact absurd rfl (hin.1 i purpose number)
    | _ => exact .inl (Operation.outbox_run h _ rfl)
  | confirmEmail i =>
    rw [run_confirmEmail h]
    cases v.account? i <;> exact .inl rfl
  | _ => exact .inl rfl

end AccountSecurity
