import AccountSecurity.Proofs.Run

/-!
# The slot for SMS codes and its history

What is in the slot of an account follows from the calls alone: the last call that wrote it says so.

* `IssuedOtp` : a code as it was issued, with its purpose and the time;
* `Entry.otpWrite?`, `lastOtpWrite?` : what an entry, and what a whole run, last did to the slot of an account;
* `World.slot?` : the slots of a state, with one lemma for issuing and one for checking;
* `slot_of_history` : after every run the slot is what the last write left;
* `verify_by_history` : **which codes are accepted**, and how the others are refused.
-/

namespace AccountSecurity
open World

/-- A code that was issued. -/
structure IssuedOtp where
  purpose : OtpPurpose
  code : String
  issuedAt : DateTime
  ttlMinutes : Int

namespace IssuedOtp

/-- The last instant at which the code is accepted. -/
def lastInstant (i : IssuedOtp) : Int := i.issuedAt.instant + i.ttlMinutes * DateTime.perMinute

/-- The slot with the code in it. -/
def slot (i : IssuedOtp) (expiresAt : DateTime) : OtpSlot := ⟨some i.code, some expiresAt, some i.purpose⟩

/-- The code that would be issued next. -/
def next? {S : Type} (setup : Setup) (config : OtpConfig) (purpose : OtpPurpose) (w : World S) : Option IssuedOtp :=
  (drawnCode config.codeLength (setup.sources.draws w.drawn)).toOption.map fun code =>
    ⟨purpose, code, w.clock, config.ttlMinutes⟩

end IssuedOtp

/-- What a call does to the slot of an account. -/
inductive OtpWrite where
  | issued (i : IssuedOtp)
  | emptied

/-- The call ended after its code was stored: with success, but not with a session, or in the delivery. -/
def hasStored : Except Failure Reply → Bool
  | .ok (.loggedIn ..) => false
  | .ok _ | .error (.refused (.smsDelivery _)) => true
  | .error _ => false

/-- The call was not refused, or refused because the code had run out. -/
def hasEmptied : Except Failure Reply → Bool
  | .error (.refused e) => e = .otpExpired
  | _ => true

variable {S : Type} [AccountStore S]

/-- The account to which a call issues a code, the purpose and the settings. -/
def Operation.issuer? (setup : Setup) (w : World S) : Operation → Option (String × OtpPurpose × OtpConfig)
  | issueOtp id purpose _ => some (id, purpose, setup.otp)
  | initiatePhone id _ => some (id, .phoneVerification, setup.phoneOtp)
  | login identifier _ _ => (w.find? identifier).map fun a => (a.id, .loginChallenge, setup.otp)
  | _ => none

/-- The account whose slot a call may empty. -/
def Operation.emptier? : Operation → Option String
  | clearOtp id | disableSms id => some id
  | op => op.check?.map (·.1)

/-- What an entry did to the slot of an account. -/
def Entry.otpWrite? (setup : Setup) (id : String) (e : Entry S) : Option OtpWrite :=
  match e.step with
  | .call op =>
    match op.issuer? setup e.before with
    | some (i, purpose, config) =>
      if i = id ∧ hasStored e.result then (IssuedOtp.next? setup config purpose e.before).map .issued else none
    | none => if op.emptier? = some id ∧ hasEmptied e.result then some .emptied else none
  | _ => none

/-- What the last entry that wrote the slot of an account did to it. -/
def lastOtpWrite? (setup : Setup) (id : String) (es : List (Entry S)) : Option OtpWrite :=
  es.reverse.findSome? (Entry.otpWrite? setup id)

/-- The entry accepted a code for an account. -/
def Entry.accepts (id : String) (e : Entry S) : Prop :=
  ∃ op code purpose, e.step = .call op ∧ op.check? = some (id, code, purpose) ∧
    ∀ r, e.result ≠ .error (.refused r)

/-! ## The slots of a state -/

variable [LawfulStore S] {setup : Setup} {w v : World S} {id : String} {a : Account}

/-- The slot of an account. -/
def World.slot? (w : World S) (id : String) : Option OtpSlot := (w.account? id).map (·.credentials.otp)

theorem World.slot?_congr (h : v.account? = w.account?) : v.slot? = w.slot? := part?_congr h

theorem World.slot?_of_update {a' : Account} (h : v.account? = Function.update w.account? id (some a')) :
    v.slot? = Function.update w.slot? id (some a'.credentials.otp) := part?_of_update h

theorem World.slot?_of_account? (h : w.account? id = some a) : w.slot? id = some a.credentials.otp :=
  part?_of_account? h

/-- An update that keeps the slot of its account keeps all slots. -/
theorem World.slot?_of_update_same {a' : Account} (ha : w.account? id = some a)
    (h : v.account? = Function.update w.account? id (some a')) (ho : a'.credentials.otp = a.credentials.otp) :
    v.slot? = w.slot? := part?_of_update_same ha h ho

/-- Issuing a code puts it into the slot, also when it cannot be sent; or nothing is issued. -/
theorem OtpChallenge.slot?_issue (h : v.Sound) (config : OtpConfig) (id : String) (purpose : OtpPurpose)
    (number : Option String) :
    (((issue setup config id purpose number).runOn v).2.slot? = v.slot? ∧
      ∃ f, ((issue setup config id purpose number).runOn v).1 = .error f ∧
        ∀ p, f ≠ .refused (.smsDelivery p)) ∨
    ∃ i t, IssuedOtp.next? setup config purpose v = some i ∧ i.purpose = purpose ∧
      i.issuedAt.addMinutes? i.ttlMinutes = some t ∧
      ((issue setup config id purpose number).runOn v).2.slot? = Function.update v.slot? id (some (i.slot t)) ∧
      (((issue setup config id purpose number).runOn v).1 = .ok () ∨
        ∃ p, ((issue setup config id purpose number).runOn v).1 = .error (.refused (.smsDelivery p))) := by
  have hends := ends_issue h setup config id purpose number
  generalize (issue setup config id purpose number).runOn v = r at hends ⊢
  -- what was stored, whether it is then sent or not
  have hstored : ∀ a code t, Stores setup config id v a code t →
      IssuedOtp.next? setup config purpose v = some ⟨purpose, code, v.clock, config.ttlMinutes⟩ ∧
      (stored id code t purpose v).slot? =
        Function.update v.slot? id (some (IssuedOtp.slot ⟨purpose, code, v.clock, config.ttlMinutes⟩ t)) :=
    fun a code t hs => ⟨by rw [IssuedOtp.next?, hs.drawn]; rfl, slot?_of_update (hs.account?_stored h purpose)⟩
  cases hends with
  | missing ha => exact .inl ⟨rfl, _, rfl, nofun⟩
  | numberless ha hn => exact .inl ⟨rfl, _, rfl, nofun⟩
  | undrawn hd => exact .inl ⟨rfl, _, rfl, nofun⟩
  | endless ht => exact .inl ⟨rfl, _, rfl, nofun⟩
  | @undelivered a code t o hs ho =>
    obtain ⟨hn, hu⟩ := hstored a code t hs
    exact .inr ⟨_, t, hn, rfl, hs.expiry, hu, .inr ⟨_, rfl⟩⟩
  | @sent a code destination t hs hd ho =>
    obtain ⟨hn, hu⟩ := hstored a code t hs
    exact .inr ⟨_, t, hn, rfl, hs.expiry, (slot?_congr rfl).trans hu, .inl rfl⟩

/-- A slot in which an expiry never stands alone. -/
def OtpSlot.Swept (s : OtpSlot) : Prop := s.code = none → s.expiresAt = none

/-- Checking a code empties the slot, when it is accepted or has run out; or the slot stays. -/
theorem OtpChallenge.slot?_verify (setup : Setup) (h : v.Sound) (hsw : ∀ s ∈ v.slot? id, s.Swept) (submitted : String)
    (purpose : OtpPurpose) :
    (((verify setup id submitted purpose).runOn v).2.account? = v.account? ∧
      ∃ r, ((verify setup id submitted purpose).runOn v).1 = .error (.refused r) ∧ r ≠ .otpExpired) ∨
    (∃ a, v.account? id = some a) ∧
      ((verify setup id submitted purpose).runOn v).2.slot? = Function.update v.slot? id (some {}) ∧
      ((∃ a, ((verify setup id submitted purpose).runOn v).1 = .ok a) ∨
        ((verify setup id submitted purpose).runOn v).1 = .error (.refused .otpExpired)) := by
  have hends := ends_verify h setup id submitted purpose
  generalize (verify setup id submitted purpose).runOn v = r at hends ⊢
  cases hends with
  | missing ha => exact .inl ⟨rfl, _, rfl, by simp⟩
  | @notPending a ha hp =>
    have hs := hsw _ (slot?_of_account? ha)
    have hno : swept id a.credentials.otp v = v := by
      unfold swept
      rw [if_neg]
      rintro ⟨hcode, hexp⟩
      rw [hs (by simpa using hcode)] at hexp
      cases hexp
    rw [hno]
    exact .inl ⟨rfl, _, rfl, by simp⟩
  | @expired a code ha hp he =>
    exact .inr ⟨⟨a, ha⟩, slot?_of_update (account?_changed h ha storable_clearOtp), .inr rfl⟩
  | invalid ha hp he hc => exact .inl ⟨rfl, _, rfl, by simp⟩
  | @accepted a ha hp he =>
    refine .inr ⟨⟨a, ha⟩, (slot?_of_update (account?_changed h ha (storable_acceptance purpose))).trans ?_,
      .inl ⟨a, rfl⟩⟩
    cases purpose <;> rfl

/-! ## The slot and the last write -/

/-- The slot of an account is what the last write left. -/
inductive Recorded : Option OtpWrite → Option OtpSlot → Prop
  | absent : Recorded none none
  | fresh : Recorded none (some {})
  | emptied : Recorded (some .emptied) (some {})
  | issued {i : IssuedOtp} {t : DateTime} : i.issuedAt.addMinutes? i.ttlMinutes = some t →
      Recorded (some (.issued i)) (some (i.slot t))

theorem Recorded.swept {p : Option OtpWrite} {o : Option OtpSlot} (h : Recorded p o) : ∀ s ∈ o, s.Swept := by
  cases h with
  | absent => simp
  | fresh => rintro _ ⟨⟩ _; rfl
  | emptied => rintro _ ⟨⟩ _; rfl
  | issued _ => rintro _ ⟨⟩ hn; cases hn

variable {op : Operation} {p : String → Option OtpWrite}

/-- A call without a write to any slot. -/
theorem recorded_quiet (h : v.Sound)
    (hw : ∀ a a', Write setup v.clock op a a' → a'.credentials.otp = a.credentials.otp)
    (hp : ∀ id, Recorded (p id) (v.slot? id)) (id : String) : Recorded (p id) ((op.run setup v).2.slot? id) := by
  have hev := (Operation.follows_run setup h op).accounts id
  have hid := hp id
  cases ha : v.account? id with
  | some a =>
    obtain ⟨a', ha', ho⟩ := hev.keeps (F := fun a => a.credentials.otp) hw ha
    rw [slot?_of_account? ha] at hid
    rw [slot?_of_account? ha', ho]
    exact hid
  | none =>
    rw [slot?, ha, Option.map_none] at hid
    have hnew : ∀ a ∈ (op.run setup v).2.account? id, a.credentials.otp = {} := by
      refine hev.all (P := fun a => a.credentials.otp = {}) (fun a a' ho hwr => (hw a a' hwr).trans ho) ?_ ?_
      · rintro a ⟨r, passwordHash, -, -, hc⟩
        rw [hc]
      · simp [ha]
    generalize p id = q at hid ⊢
    cases hid
    rw [slot?]
    cases ha' : (op.run setup v).2.account? id with
    | none => exact .absent
    | some a' =>
      rw [Option.map_some, hnew a' ha']
      exact .fresh

omit [LawfulStore S] in
/-- What a call that issues codes does to a slot. -/
theorem Entry.otpWrite?_of_issuer {i : String} {purpose : OtpPurpose} {config : OtpConfig}
    (hi : op.issuer? setup v = some (i, purpose, config)) (id : String) :
    (Entry.of setup (.call op) v).otpWrite? setup id =
      if i = id ∧ hasStored (op.run setup v).1 then (IssuedOtp.next? setup config purpose v).map .issued else none := by
  unfold Entry.otpWrite?
  simp only [Entry.of_step, Entry.of_before, hi]
  rfl

/-- What the history says after an entry: what the entry did, or else what was said before. -/
def recordNext (setup : Setup) (e : Entry S) (p : String → Option OtpWrite) (id : String) : Option OtpWrite :=
  (e.otpWrite? setup id).or (p id)

section Call
variable (hp : ∀ id, Recorded (p id) (v.slot? id)) (id : String)
include hp

/-- A call that issues a code, or leaves the slots alone. -/
theorem recorded_issuer {i : String} {purpose : OtpPurpose} {config : OtpConfig}
    (hi : op.issuer? setup v = some (i, purpose, config))
    (hr : ((op.run setup v).2.slot? = v.slot? ∧ hasStored (op.run setup v).1 = false) ∨
      ∃ o t, IssuedOtp.next? setup config purpose v = some o ∧ o.issuedAt.addMinutes? o.ttlMinutes = some t ∧
        (op.run setup v).2.slot? = Function.update v.slot? i (some (o.slot t)) ∧ hasStored (op.run setup v).1) :
    Recorded (recordNext setup (.of setup (.call op) v) p id) ((op.run setup v).2.slot? id) := by
  rw [recordNext, Entry.otpWrite?_of_issuer hi]
  obtain ⟨hs, hf⟩ | ⟨o, t, ho, ht, hs, hf⟩ := hr
  · rw [if_neg (by simp [hf]), Option.none_or, hs]
    exact hp id
  · rw [hs]
    by_cases hid : i = id
    · subst hid
      rw [if_pos ⟨rfl, hf⟩, ho, Function.update_self]
      exact .issued ht
    · rw [if_neg (fun h => hid h.1), Option.none_or, Function.update_of_ne (Ne.symm hid)]
      exact hp id

/-- A call that empties a slot, or leaves the slots alone. -/
theorem recorded_emptier {i : String} (hi : op.issuer? setup v = none) (he : op.emptier? = some i)
    (hr : ((op.run setup v).2.slot? = v.slot? ∧ hasEmptied (op.run setup v).1 = false) ∨
      (op.run setup v).2.slot? = Function.update v.slot? i (some {}) ∧ hasEmptied (op.run setup v).1) :
    Recorded (recordNext setup (.of setup (.call op) v) p id) ((op.run setup v).2.slot? id) := by
  have hwr : (Entry.of setup (.call op) v).otpWrite? setup id =
      if i = id ∧ hasEmptied (op.run setup v).1 then some .emptied else none := by
    unfold Entry.otpWrite?
    simp only [Entry.of_step, Entry.of_before, hi, he, Option.some.injEq]
    rfl
  rw [recordNext, hwr]
  obtain ⟨hs, hf⟩ | ⟨hs, hf⟩ := hr
  · rw [if_neg (by simp [hf]), Option.none_or, hs]
    exact hp id
  · rw [hs]
    by_cases hid : i = id
    · subst hid
      rw [if_pos ⟨rfl, hf⟩, Function.update_self]
      exact .emptied
    · rw [if_neg (fun h => hid h.1), Option.none_or, Function.update_of_ne (Ne.symm hid)]
      exact hp id

/-- A call that is no matter of codes. -/
theorem recorded_other (h : v.Sound) (hi : op.issuer? setup v = none) (he : op.emptier? = none)
    (hw : ∀ a a', Write setup v.clock op a a' → a'.credentials.otp = a.credentials.otp) :
    Recorded (recordNext setup (.of setup (.call op) v) p id) ((op.run setup v).2.slot? id) := by
  have hwr : (Entry.of setup (.call op) v).otpWrite? setup id = none := by
    unfold Entry.otpWrite?
    simp [hi, he]
  rw [recordNext, hwr, Option.none_or]
  exact recorded_quiet h hw hp id

end Call

/-! ## Each call that writes a slot -/

/-- Issuing a code, as a call. -/
theorem hasStored_issue (setup : Setup) (h : v.Sound) (config : OtpConfig) (id : String) (purpose : OtpPurpose)
    (number : Option String) {f : Unit → Reply} (hf : hasStored (.ok (f ()))) :
    (((OtpChallenge.issue setup config id purpose number).runOn v).2.slot? = v.slot? ∧
      hasStored (((OtpChallenge.issue setup config id purpose number).runOn v).1.map f) = false) ∨
    ∃ o t, IssuedOtp.next? setup config purpose v = some o ∧ o.issuedAt.addMinutes? o.ttlMinutes = some t ∧
      ((OtpChallenge.issue setup config id purpose number).runOn v).2.slot? =
        Function.update v.slot? id (some (o.slot t)) ∧
      hasStored (((OtpChallenge.issue setup config id purpose number).runOn v).1.map f) := by
  obtain ⟨hs, e, he, hne⟩ | ⟨o, t, ho, -, ht, hs, hr⟩ := OtpChallenge.slot?_issue h config id purpose number
  · refine .inl ⟨hs, ?_⟩
    rw [he]
    unfold hasStored
    split
    · rfl
    · next heq => cases heq
    · next p heq => cases heq; exact absurd rfl (hne p)
    · rfl
  · refine .inr ⟨o, t, ho, ht, hs, ?_⟩
    obtain hr | ⟨q, hr⟩ := hr
    · rw [hr]; exact hf
    · rw [hr]; rfl

/-- Checking a code, as a call. -/
theorem hasEmptied_verify (setup : Setup) (h : v.Sound) (hsw : ∀ s ∈ v.slot? id, s.Swept) (submitted : String)
    (purpose : OtpPurpose) (f : Account → Reply) :
    (((OtpChallenge.verify setup id submitted purpose).runOn v).2.slot? = v.slot? ∧
      hasEmptied (((OtpChallenge.verify setup id submitted purpose).runOn v).1.map f) = false) ∨
    ((OtpChallenge.verify setup id submitted purpose).runOn v).2.slot? = Function.update v.slot? id (some {}) ∧
      hasEmptied (((OtpChallenge.verify setup id submitted purpose).runOn v).1.map f) := by
  obtain ⟨hs, r, hr, hne⟩ | ⟨-, hs, hr⟩ := OtpChallenge.slot?_verify setup h hsw submitted purpose
  · refine .inl ⟨slot?_congr hs, ?_⟩
    rw [hr]
    simpa [hasEmptied, Except.map] using hne
  · refine .inr ⟨hs, ?_⟩
    obtain ⟨a, hr⟩ | hr := hr
    · rw [hr]; rfl
    · rw [hr]; rfl

/-- A failure that is no failed delivery stored no code. -/
theorem hasStored_error {f : Failure} (h : ∀ e, f ≠ .refused e) : hasStored (.error f) = false := by
  cases f with
  | refused e => exact absurd rfl (h e)
  | fault f => rfl

/-- Opening a session stores no code. -/
theorem hasStored_complete (setup : Setup) (h : v.Sound) (a : Account) (c : Option RequestContext) :
    ((Login.complete setup a c).runOn v).2.slot? = v.slot? ∧
      hasStored (((((Login.complete setup a c).runOn v).1.map fun r => Login.Outcome.success r.1 r.2)).map
        Login.Outcome.reply) = false := by
  rw [Login.runOn_complete h]
  cases TokenIssuer.nextSession? setup a.view v with
  | none => exact ⟨rfl, rfl⟩
  | some s => exact ⟨rfl, rfl⟩

/-- A login stores a code when it asks for one, and leaves the slots alone otherwise. -/
theorem hasStored_login (h : v.Sound) {identifier : String} (hf : v.find? identifier = some a) (password : String)
    (c : Option RequestContext) :
    (((Operation.login identifier password c).run setup v).2.slot? = v.slot? ∧
      hasStored ((Operation.login identifier password c).run setup v).1 = false) ∨
    ∃ o t, IssuedOtp.next? setup setup.otp .loginChallenge v = some o ∧ o.issuedAt.addMinutes? o.ttlMinutes = some t ∧
      ((Operation.login identifier password c).run setup v).2.slot? =
        Function.update v.slot? a.id (some (o.slot t)) ∧
      hasStored ((Operation.login identifier password c).run setup v).1 := by
  have ha := account?_of_find? h hf
  have hends := Login.ends_login setup h identifier password c
  rw [Operation.run_login setup h]
  generalize (Login.login setup identifier password c).runOn v = r at hends ⊢
  have hsame : ∀ {b}, v.find? identifier = some b → b = a := fun hb => Option.some.inj (hb.symm.trans hf)
  -- neither the count nor the acceptance of a password touches the slot
  have hmissed : ∀ {b n}, Login.Missed identifier password v b n → (v.counted b.id).slot? = v.slot? :=
    fun hc => slot?_of_update_same (hc.account? h) hc.account rfl
  have hadmitted : ∀ {b newHash}, Login.Admitted setup identifier password v b newHash →
      (Login.admitted b newHash v).slot? = v.slot? :=
    fun hc => slot?_of_update_same (hc.account? h) (hc.account?_admitted h) (Login.otp_acceptance ..)
  cases hends with
  | unknown hb => exact .inl ⟨rfl, rfl⟩
  | locked hb hl => exact .inl ⟨rfl, rfl⟩
  | broken hb hl hx => exact .inl ⟨rfl, hasStored_error hx⟩
  | rejected hc hm => exact .inl ⟨hmissed hc, rfl⟩
  | lockedOut hc hm ht =>
    have hlocked := hc.account?_lockedOut ((DateTime.offset_of_addMinutes ht).trans h.clock)
    exact .inl ⟨slot?_of_update_same (hc.account? h) hlocked.2 rfl, rfl⟩
  | endless hc hm ht => exact .inl ⟨hmissed hc, rfl⟩
  | unverified hc he => exact .inl ⟨hadmitted hc, rfl⟩
  | numberless hc he hs hn => exact .inl ⟨hadmitted hc, rfl⟩
  | @challenged b newHash n hc he hs hn =>
    cases hsame hc.found
    have hi := hasStored_issue setup (hc.sound h) setup.otp a.id .loginChallenge (some n)
      (f := fun _ => .challenged a.id) rfl
    rw [hadmitted hc] at hi
    rw [Operation.map_map]
    exact hi
  | @opened b newHash hc he hs =>
    obtain ⟨hslot, hr⟩ := hasStored_complete setup (hc.sound h) b c
    exact .inl ⟨hslot.trans (hadmitted hc), hr⟩

theorem World.slot?_finishLogin (h : v.Sound) (id submitted : String) (c : Option RequestContext) :
    ((Operation.finishLogin id submitted c).run setup v).2.slot? =
      ((OtpChallenge.verify setup id submitted .loginChallenge).runOn v).2.slot? :=
  Operation.part?_finishLogin (F := (·.credentials.otp)) setup h (fun _ _ => rfl) id submitted c

/-- The SMS step of a login empties the slot when the code is accepted or has run out. -/
theorem hasEmptied_finish (h : v.Sound) (hsw : ∀ s ∈ v.slot? id, s.Swept) (submitted : String)
    (c : Option RequestContext) :
    (((Operation.finishLogin id submitted c).run setup v).2.slot? = v.slot? ∧
      hasEmptied ((Operation.finishLogin id submitted c).run setup v).1 = false) ∨
    ((Operation.finishLogin id submitted c).run setup v).2.slot? = Function.update v.slot? id (some {}) ∧
      hasEmptied ((Operation.finishLogin id submitted c).run setup v).1 := by
  have hv := hasEmptied_verify setup h hsw submitted .loginChallenge .account
  rw [slot?_finishLogin h, Operation.run_finishLogin setup h, Login.runOn_finish h]
  rcases hr : (OtpChallenge.verify setup id submitted .loginChallenge).runOn v with ⟨f | a, u⟩
  · rw [hr] at hv
    exact hv
  · rw [hr] at hv
    obtain ⟨-, hf⟩ | ⟨hs, -⟩ := hv
    · cases hf
    · obtain ⟨hu, hb, -⟩ := OtpChallenge.account?_of_verify_ok h hr
      refine .inr ⟨hs, ?_⟩
      dsimp only
      rw [Login.runOn_complete (hu.changed hb (Login.storable_lastLogin h.clock))]
      split <;> rfl

/-- Turning the SMS factor off empties the slot. -/
theorem hasEmptied_disable (h : v.Sound) :
    (((Operation.disableSms id).run setup v).2.slot? = v.slot? ∧
      hasEmptied ((Operation.disableSms id).run setup v).1 = false) ∨
    ((Operation.disableSms id).run setup v).2.slot? = Function.update v.slot? id (some {}) ∧
      hasEmptied ((Operation.disableSms id).run setup v).1 := by
  rw [show (Operation.disableSms id).run setup v = _ from Action.runOn_map .., SmsFactor.runOn_disable h]
  cases ha : v.account? id with
  | none => exact .inl ⟨rfl, rfl⟩
  | some a =>
    dsimp only
    split
    · exact .inl ⟨rfl, rfl⟩
    · have hs : Storable (LawfulStore.Keeps S) _ := SmsFactor.storable_smsEnabled false
      have ha' := account?_changed_self h ha hs
      have hc := account?_changed (h.changed ha hs) ha' OtpChallenge.storable_clearOtp
      refine .inr ⟨(slot?_of_update hc).trans ?_, rfl⟩
      rw [slot?_of_update_same ha (account?_changed h ha hs) rfl]
      rfl

theorem hasEmptied_clear (h : v.Sound) :
    (((Operation.clearOtp id).run setup v).2.slot? = v.slot? ∧
      hasEmptied ((Operation.clearOtp id).run setup v).1 = false) ∨
    ((Operation.clearOtp id).run setup v).2.slot? = Function.update v.slot? id (some {}) ∧
      hasEmptied ((Operation.clearOtp id).run setup v).1 := by
  rw [Operation.run_clearOtp, OtpChallenge.runOn_clear h]
  cases ha : v.account? id with
  | none => exact .inl ⟨rfl, rfl⟩
  | some a => exact .inr ⟨slot?_of_update (account?_changed h ha OtpChallenge.storable_clearOtp), rfl⟩

/-- Starting the verification of a number stores a code, or leaves the slots alone. -/
theorem hasStored_initiate (h : v.Sound) (number : String) :
    (((Operation.initiatePhone id number).run setup v).2.slot? = v.slot? ∧
      hasStored ((Operation.initiatePhone id number).run setup v).1 = false) ∨
    ∃ o t, IssuedOtp.next? setup setup.phoneOtp .phoneVerification v = some o ∧
      o.issuedAt.addMinutes? o.ttlMinutes = some t ∧
      ((Operation.initiatePhone id number).run setup v).2.slot? = Function.update v.slot? id (some (o.slot t)) ∧
      hasStored ((Operation.initiatePhone id number).run setup v).1 := by
  rw [Operation.run_initiatePhone, SmsFactor.runOn_initiate h]
  cases ha : v.account? id with
  | none => exact .inl ⟨rfl, rfl⟩
  | some a =>
    have hm := SmsFactor.sound_moved h ha number
    have hsl : (SmsFactor.moved id number a v).slot? = v.slot? := by
      unfold SmsFactor.moved
      split
      · rfl
      · have hr := h.renumbered ha (some number)
        have ha' := SmsFactor.account?_renumbered_self h ha (some number)
        exact (slot?_of_update_same ha' (account?_changed hr ha' SmsFactor.storable_unproven) rfl).trans
          (slot?_of_update_same ha (account?_renumbered h ha _) rfl)
    have hn : IssuedOtp.next? setup setup.phoneOtp .phoneVerification (SmsFactor.moved id number a v) =
        IssuedOtp.next? setup setup.phoneOtp .phoneVerification v := by
      unfold SmsFactor.moved
      split <;> rfl
    have hi := hasStored_issue setup hm setup.phoneOtp id .phoneVerification (some number)
      (f := fun _ => .done) rfl
    rw [hsl, hn] at hi
    exact hi

/-! ## Runs -/

/-- **The history keeps up** with the slots over every step. -/
theorem recorded_step (h : v.Sound) (hp : ∀ id, Recorded (p id) (v.slot? id)) (s : Step) (id : String) :
    Recorded (recordNext setup (.of setup s v) p id) ((s.run setup v).2.slot? id) := by
  cases s with
  | clock now => exact hp id
  | outage o => exact hp id
  | confirmEmail i =>
    have hs : ((Step.confirmEmail i).run setup v).2.slot? = v.slot? := by
      rw [run_confirmEmail h]
      cases ha : v.account? i with
      | none => rfl
      | some a => exact slot?_of_update_same ha (account?_changed h ha storable_emailVerified) rfl
    rw [hs]
    exact hp id
  | call op =>
    have hsw : ∀ i, ∀ s ∈ v.slot? i, s.Swept := fun i => (hp i).swept
    cases op with
    | login identifier password c =>
      cases hf : v.find? identifier with
      | some a => exact recorded_issuer hp id (by simp [Operation.issuer?, hf]) (hasStored_login h hf password c)
      | none =>
        have hr : ((Operation.login identifier password c).run setup v).2.slot? = v.slot? := by
          rw [Operation.run_login setup h, Login.runOn_login h, hf]
          rfl
        have hwr : (Entry.of setup (.call (.login identifier password c)) v).otpWrite? setup id = none := by
          unfold Entry.otpWrite?
          simp [Operation.issuer?, hf, Operation.emptier?, Operation.check?]
        rw [recordNext, hwr, Option.none_or]
        exact hr ▸ hp id
    | finishLogin i code c => exact recorded_emptier hp id rfl rfl (hasEmptied_finish h (hsw i) code c)
    | issueOtp i purpose number =>
      refine recorded_issuer hp id rfl ?_
      rw [Operation.run_issueOtp]
      exact hasStored_issue setup h setup.otp i purpose number rfl
    | initiatePhone i number => exact recorded_issuer hp id rfl (hasStored_initiate h number)
    | verifyOtp i code purpose =>
      refine recorded_emptier hp id rfl rfl ?_
      rw [Operation.run_verifyOtp]
      exact hasEmptied_verify setup h (hsw i) code purpose _
    | verifyPhone i code =>
      refine recorded_emptier hp id rfl rfl ?_
      rw [Operation.run_verifyPhone]
      exact hasEmptied_verify setup h (hsw i) code .phoneVerification _
    | clearOtp i => exact recorded_emptier hp id rfl rfl (hasEmptied_clear h)
    | disableSms i => exact recorded_emptier hp id rfl rfl (hasEmptied_disable h)
    | _ => exact recorded_other hp id h rfl rfl fun a a' hw => by cases hw <;> first | rfl | contradiction

omit [LawfulStore S] in
theorem lastOtpWrite?_append (es es' : List (Entry S)) :
    lastOtpWrite? setup id (es ++ es') = (lastOtpWrite? setup id es').or (lastOtpWrite? setup id es) := by
  rw [lastOtpWrite?, List.reverse_append, List.findSome?_append]
  rfl

omit [LawfulStore S] in
theorem lastOtpWrite?_singleton (e : Entry S) : lastOtpWrite? setup id [e] = e.otpWrite? setup id := by
  rw [lastOtpWrite?, List.reverse_singleton, List.findSome?_cons]
  cases e.otpWrite? setup id <;> rfl

variable {es : List (Entry S)}

/-- After every run the slot of an account is what the last write left. -/
theorem slot_of_history (hw : w.Sound) (hempty : ∀ id a, w.account? id = some a → a.credentials.otp = {})
    (hr : Run setup w es v) (id : String) : Recorded (lastOtpWrite? setup id es) (v.slot? id) := by
  induction hr generalizing id with
  | start =>
    show Recorded none (w.slot? id)
    rw [slot?]
    cases ha : w.account? id with
    | none => exact .absent
    | some a =>
      rw [Option.map_some, hempty id a ha]
      exact .fresh
  | @step es v hr s ih =>
    rw [lastOtpWrite?_append, lastOtpWrite?_singleton]
    exact recorded_step (hr.sound hw) ih s id

/-! ## Which codes are accepted -/

theorem IssuedOtp.isExpired_slot {i : IssuedOtp} {t now : DateTime}
    (ht : i.issuedAt.addMinutes? i.ttlMinutes = some t) :
    OtpChallenge.isExpired (i.slot t) now = decide (i.lastInstant < now.instant) := by
  show t.before now = _
  rw [DateTime.before, DateTime.instant_of_addMinutes ht, lastInstant]

theorem IssuedOtp.pendingFor?_slot (i : IssuedOtp) (t : DateTime) (purpose : OtpPurpose) :
    OtpChallenge.pendingFor? (i.slot t) purpose = if i.purpose = purpose then some i.code else none := by
  unfold OtpChallenge.pendingFor? slot
  by_cases hp : i.purpose = purpose <;> simp [hp]

/-- A code of the right purpose is the one that was issued last, in time, or it is refused. -/
theorem OtpChallenge.verify_of_recorded (setup : Setup) (h : v.Sound) (ha : v.account? id = some a)
    {last : Option OtpWrite} (hrec : Recorded last (v.slot? id)) (submitted : String) (purpose : OtpPurpose) :
    ((∀ i, last = some (.issued i) → i.purpose ≠ purpose) →
      ((verify setup id submitted purpose).runOn v).1 = .error (.refused .otpNotPending) ∧
      ((verify setup id submitted purpose).runOn v).2.account? = v.account?) ∧
    ∀ i, last = some (.issued i) → i.purpose = purpose →
      (i.lastInstant < v.clock.instant →
        ((verify setup id submitted purpose).runOn v).1 = .error (.refused .otpExpired) ∧
        ((verify setup id submitted purpose).runOn v).2.slot? id = some {}) ∧
      (v.clock.instant ≤ i.lastInstant → i.code ≠ submitted →
        ((verify setup id submitted purpose).runOn v).1 = .error (.refused .otpInvalid) ∧
        ((verify setup id submitted purpose).runOn v).2.account? = v.account?) ∧
      (v.clock.instant ≤ i.lastInstant → i.code = submitted →
        ((verify setup id submitted purpose).runOn v).1 = .ok a ∧
        ((verify setup id submitted purpose).runOn v).2.slot? id = some {}) := by
  have hslot := slot?_of_account? ha
  rw [runOn_verify h, ha]
  dsimp only
  rw [hslot] at hrec
  generalize ho : a.credentials.otp = o at hrec ⊢
  constructor
  · intro hlast
    have hnone : pendingFor? o purpose = none := by
      cases hrec with
      | fresh => rfl
      | emptied => rfl
      | issued _ => rw [IssuedOtp.pendingFor?_slot, if_neg (hlast _ rfl)]
    have hno : swept id o v = v := by
      cases hrec <;> rfl
    rw [hnone, hno]
    exact ⟨rfl, rfl⟩
  · rintro i rfl hp
    cases hrec with
    | issued ht =>
      rw [IssuedOtp.pendingFor?_slot, if_pos hp, IssuedOtp.isExpired_slot ht]
      dsimp only
      refine ⟨fun he => ?_, fun he hc => ?_, fun he hc => ?_⟩
      · rw [if_pos (by simpa using he)]
        refine ⟨rfl, ?_⟩
        show (v.changed id CredentialChange.clearOtp).slot? id = some {}
        rw [slot?_of_update (account?_changed h ha storable_clearOtp), Function.update_self]
        rfl
      · rw [if_neg (by simpa using he), if_pos hc]
        exact ⟨rfl, rfl⟩
      · rw [if_neg (by simpa using he), if_neg (by simpa using hc)]
        refine ⟨rfl, ?_⟩
        show (v.changed id (acceptance purpose)).slot? id = some {}
        rw [slot?_of_update (account?_changed h ha (storable_acceptance purpose)), Function.update_self]
        cases purpose <;> rfl

/-- A code is accepted when it is the one that was issued last, for the purpose and in time. -/
theorem OtpChallenge.verify_ok_iff (h : v.Sound) (ha : v.account? id = some a) {last : Option OtpWrite}
    (hrec : Recorded last (v.slot? id)) (submitted : String) (purpose : OtpPurpose) :
    (∃ b, ((verify setup id submitted purpose).runOn v).1 = .ok b) ↔
      ∃ i, last = some (.issued i) ∧ i.purpose = purpose ∧ i.code = submitted ∧
        v.clock.instant ≤ i.lastInstant := by
  obtain ⟨hother, hissued⟩ := verify_of_recorded setup h ha hrec submitted purpose
  constructor
  · rintro ⟨b, hb⟩
    by_cases hlast : ∀ i, last = some (.issued i) → i.purpose ≠ purpose
    · rw [(hother hlast).1] at hb
      cases hb
    · simp only [not_forall, Ne, not_not] at hlast
      obtain ⟨i, hi, hp⟩ := hlast
      obtain ⟨hexpired, hwrong, -⟩ := hissued i hi hp
      by_cases he : i.lastInstant < v.clock.instant
      · rw [(hexpired he).1] at hb
        cases hb
      · by_cases hc : i.code = submitted
        · exact ⟨i, hi, hp, hc, by omega⟩
        · rw [(hwrong (by omega) hc).1] at hb
          cases hb
  · rintro ⟨i, hi, hp, hc, he⟩
    exact ⟨a, ((hissued i hi hp).2.2 he hc).1⟩

/-- A call that was not refused the code that it submitted had it checked with success. -/
theorem Entry.verify_of_check {e : Entry S} (h : e.before.Sound) (ho : e = .of setup e.step e.before) {code : String}
    {purpose : OtpPurpose} (hstep : e.step = .call op) (hcheck : op.check? = some (id, code, purpose))
    (hres : ∀ r, e.result ≠ .error (.refused r)) :
    ∃ b, ((OtpChallenge.verify setup id code purpose).runOn e.before).1 = .ok b := by
  have hr : e.result = (op.run setup e.before).1 := by
    rw [ho, hstep]
    rfl
  rw [hr] at hres
  have hcases : (∃ r, ((OtpChallenge.verify setup id code purpose).runOn e.before).1 = .error (.refused r)) ∨
      ∃ b, ((OtpChallenge.verify setup id code purpose).runOn e.before).1 = .ok b := by
    have hends := OtpChallenge.ends_verify h setup id code purpose
    generalize (OtpChallenge.verify setup id code purpose).runOn e.before = r at hends ⊢
    cases hends with
    | accepted ha hp he => exact .inr ⟨_, rfl⟩
    | _ => exact .inl ⟨_, rfl⟩
  refine hcases.resolve_left ?_
  rintro ⟨r, hv⟩
  refine hres r ?_
  cases op with
  | verifyOtp i c q =>
    cases hcheck
    rw [Operation.run_verifyOtp, hv]
    rfl
  | verifyPhone i c =>
    cases hcheck
    rw [Operation.run_verifyPhone, hv]
    rfl
  | finishLogin i c ctx =>
    cases hcheck
    rw [Operation.run_finishLogin setup h, Login.runOn_finish h]
    rcases hrun : (OtpChallenge.verify setup id code .loginChallenge).runOn e.before with ⟨f | b, u⟩
    · rw [hrun] at hv
      cases hv
      rfl
    · rw [hrun] at hv
      cases hv
  | _ => cases hcheck

/-- An entry that accepted a code had it checked with success. -/
theorem Entry.verify_of_accepts {e : Entry S} (h : e.before.Sound) (ho : e = .of setup e.step e.before)
    (hacc : e.accepts id) :
    ∃ code purpose b, ((OtpChallenge.verify setup id code purpose).runOn e.before).1 = .ok b := by
  obtain ⟨op, code, purpose, hstep, hcheck, hres⟩ := hacc
  exact ⟨code, purpose, verify_of_check h ho hstep hcheck hres⟩

omit [LawfulStore S] in
/-- An entry that accepted a code emptied the slot. -/
theorem Entry.otpWrite?_of_accepts {e : Entry S} (hacc : e.accepts id) : e.otpWrite? setup id = some .emptied := by
  obtain ⟨op, code, purpose, hstep, hcheck, hres⟩ := hacc
  have hem : op.emptier? = some id ∧ op.issuer? setup e.before = none := by
    cases op with
    | verifyOtp i c q => cases hcheck; exact ⟨rfl, rfl⟩
    | verifyPhone i c => cases hcheck; exact ⟨rfl, rfl⟩
    | finishLogin i c ctx => cases hcheck; exact ⟨rfl, rfl⟩
    | _ => cases hcheck
  have hdone : hasEmptied e.result := by
    unfold hasEmptied
    split
    · next r heq => exact absurd heq (hres r)
    · rfl
  unfold otpWrite?
  rw [hstep]
  simp only [hem.1, hem.2, hdone, and_self, if_true]

/-- **Which codes are accepted.** After every run a code is accepted if and only if the last write to the slot of
the account was an issue of this code for this purpose, and its time is not over. Otherwise the call is refused:
without a code for the purpose the accounts stay; a code that has run out is dropped; a wrong code changes no
account. Between two entries that accept a code there is one that issues a code. -/
theorem verify_by_history (hw : w.Sound) (hempty : ∀ id a, w.account? id = some a → a.credentials.otp = {})
    (hr : Run setup w es v) (id submitted : String) (purpose : OtpPurpose) (a : Account)
    (ha : v.account? id = some a) :
    ((∃ b, ((OtpChallenge.verify setup id submitted purpose).runOn v).1 = .ok b) ↔
      ∃ i, lastOtpWrite? setup id es = some (.issued i) ∧ i.purpose = purpose ∧ i.code = submitted ∧
        v.clock.instant ≤ i.lastInstant) ∧
    ((∀ i, lastOtpWrite? setup id es = some (.issued i) → i.purpose ≠ purpose) →
      ((OtpChallenge.verify setup id submitted purpose).runOn v).1 = .error (.refused .otpNotPending) ∧
      ((OtpChallenge.verify setup id submitted purpose).runOn v).2.account? = v.account?) ∧
    (∀ i, lastOtpWrite? setup id es = some (.issued i) → i.purpose = purpose →
      (i.lastInstant < v.clock.instant →
        ((OtpChallenge.verify setup id submitted purpose).runOn v).1 = .error (.refused .otpExpired) ∧
        ((OtpChallenge.verify setup id submitted purpose).runOn v).2.slot? id = some {}) ∧
      (v.clock.instant ≤ i.lastInstant → i.code ≠ submitted →
        ((OtpChallenge.verify setup id submitted purpose).runOn v).1 = .error (.refused .otpInvalid) ∧
        ((OtpChallenge.verify setup id submitted purpose).runOn v).2.account? = v.account?) ∧
      (v.clock.instant ≤ i.lastInstant → i.code = submitted →
        ((OtpChallenge.verify setup id submitted purpose).runOn v).1 = .ok a ∧
        ((OtpChallenge.verify setup id submitted purpose).runOn v).2.slot? id = some {})) ∧
    ∀ pre mid post e e', es = pre ++ e :: (mid ++ e' :: post) → e.accepts id → e'.accepts id →
      ∃ x ∈ mid, ∃ i, x.otpWrite? setup id = some (.issued i) := by
  have hsound := hr.sound hw
  have hrec := slot_of_history hw hempty hr id
  obtain ⟨hother, hissued⟩ := OtpChallenge.verify_of_recorded setup hsound ha hrec submitted purpose
  refine ⟨OtpChallenge.verify_ok_iff hsound ha hrec submitted purpose, hother, hissued, ?_⟩
  intro pre mid post e e' hes hacc hacc'
  obtain ⟨hpre, ho⟩ := hr.split (show es = (pre ++ e :: mid) ++ e' :: post by rw [hes]; simp)
  obtain ⟨code, q, b, hb⟩ := Entry.verify_of_accepts (hpre.sound hw) ho hacc'
  have hb' : ∃ a', e'.before.account? id = some a' := by
    rw [OtpChallenge.runOn_verify (hpre.sound hw)] at hb
    cases ha' : e'.before.account? id with
    | none => rw [ha'] at hb; cases hb
    | some a' => exact ⟨a', rfl⟩
  obtain ⟨a', ha'⟩ := hb'
  obtain ⟨i, hi, -⟩ := (OtpChallenge.verify_ok_iff (hpre.sound hw) ha' (slot_of_history hw hempty hpre id) code q).1
    ⟨b, hb⟩
  rw [← List.singleton_append, lastOtpWrite?_append, lastOtpWrite?_append, lastOtpWrite?_singleton,
    Entry.otpWrite?_of_accepts hacc] at hi
  cases hm : lastOtpWrite? setup id mid with
  | none => rw [hm, Option.none_or, Option.some_or] at hi; cases hi
  | some x =>
    rw [hm, Option.some_or, Option.some_or] at hi
    obtain ⟨y, hy, hyw⟩ := List.exists_of_findSome?_eq_some hm
    exact ⟨y, List.mem_reverse.1 hy, i, hyw.trans hi⟩

/-- The code of a call that issued one is accepted right after the call. -/
theorem verify_by_history_issued :
    ∃ b, ((OtpChallenge.verify Setup.sample "1" "000000" .phoneVerification).runOn
      (Entry.of Setup.sample (.call (.issueOtp "1" .phoneVerification none)) World.sample).after).1 = .ok b := by
  have hempty : ∀ id a, World.sample.account? id = some a → a.credentials.otp = {} := fun id a h => by
    obtain ⟨-, rfl⟩ := World.account?_sample h
    rfl
  have hstored : hasStored (Entry.of Setup.sample (.call (.issueOtp "1" .phoneVerification none))
      World.sample).result := by decide +kernel
  have hnext : (drawnCode Setup.sample.otp.codeLength (Setup.sample.sources.draws World.sample.drawn)).toOption =
      some "000000" := by decide +kernel
  have hlast : lastOtpWrite? Setup.sample "1" ([] ++ [Entry.of Setup.sample
      (.call (.issueOtp "1" .phoneVerification none)) World.sample]) =
      some (.issued ⟨.phoneVerification, "000000", .epoch, 10⟩) := by
    rw [List.nil_append, lastOtpWrite?_singleton]
    simp only [Entry.otpWrite?, Entry.of_step, Entry.of_before, Operation.issuer?]
    rw [if_pos ⟨trivial, hstored⟩, IssuedOtp.next?, hnext]
    rfl
  obtain ⟨a, ha⟩ := Option.isSome_iff_exists.1 (show ((Entry.of Setup.sample
    (.call (.issueOtp "1" .phoneVerification none)) World.sample).after.account? "1").isSome by decide +kernel)
  exact (verify_by_history World.sound_sample hempty (.step .start _) "1" "000000" .phoneVerification a ha).1.2
    ⟨_, hlast, rfl, rfl, by decide +kernel⟩

end AccountSecurity
