import AccountSecurity.Proofs.Service.World
import AccountSecurity.Proofs.Text.Integer
import AccountSecurity.Service.SmsFactor

/-!
# What the calls for SMS codes do

Each call as a table of its ends: the result, and the state that is left.

* `exists_drawnCode`, `drawnCode_of_le` : which numbers have a code;
* `runOn_drawCode_eq` : drawing a code, which takes one number and leaves the rest as it was;
* `runOn_issue`, `ends_issue` : issuing a code, which is stored before it is sent;
* `runOn_verify`, `ends_verify` : checking a submitted code;
* `runOn_clear` : dropping the pending code.
-/

namespace AccountSecurity.OtpChallenge
open World
variable {S : Type} [AccountStore S] [LawfulStore S] {w : World S} {a : Account}

/-! ## Codes -/

section DrawnCode
variable {length : Int} {draw : Nat}

/-- A number with few enough digits has a code. -/
theorem drawnCode_of_lt (h0 : 0 ≤ length) (h : draw % otpBound length < 10 ^ Text.maxIntegerDigits) :
    drawnCode length draw = .ok (otpCode length (draw % otpBound length)) := by
  have hfew : (Text.decimal (draw % otpBound length)).length ≤ Text.maxIntegerDigits :=
    (Text.length_decimal_le_iff (by decide)).2 h
  unfold drawnCode
  rw [if_neg (Int.not_lt.2 h0)]
  exact if_neg (Nat.not_lt.2 hfew)

/-- A number with more digits has none. -/
theorem drawnCode_of_le (h0 : 0 ≤ length) (h : 10 ^ Text.maxIntegerDigits ≤ draw % otpBound length) :
    drawnCode length draw = .error (.value (.tooManyDigits none)) := by
  have hmany : ¬ (Text.decimal (draw % otpBound length)).length ≤ Text.maxIntegerDigits :=
    fun hfew => Nat.not_lt.2 h ((Text.length_decimal_le_iff (by decide)).1 hfew)
  unfold drawnCode
  rw [if_neg (Int.not_lt.2 h0)]
  exact if_pos (Nat.lt_of_not_le hmany)

/-- With no more digits than a number may have, every draw has a code. -/
theorem exists_drawnCode (h0 : 0 ≤ length) (hl : length ≤ Text.maxIntegerDigits) (draw : Nat) :
    ∃ code, drawnCode length draw = .ok code := by
  have hpos : 0 < otpBound length := Nat.pow_pos (by decide)
  have hbound : ∀ k, length.toNat ≤ k → otpBound length ≤ 10 ^ k := fun k hk => Nat.pow_le_pow_right (by decide) hk
  exact ⟨_, drawnCode_of_lt h0 ((Nat.mod_lt draw hpos).trans_le (hbound _ (Int.toNat_le.2 hl)))⟩

end DrawnCode

omit [AccountStore S] [LawfulStore S] in
/-- The next random number is taken, and its code returned. -/
theorem runOn_drawCode_eq (setup : Setup) (config : OtpConfig) (w : World S) :
    (drawCode setup config).runOn w =
      ((drawnCode config.codeLength (setup.sources.draws w.drawn)).mapError .fault, w.drew 1) := by
  unfold drawCode
  rw [Action.runOn_bind_of_ok (runOn_draw setup w)]
  cases drawnCode config.codeLength (setup.sources.draws w.drawn) <;> rfl

/-! ## Issuing -/

theorem nonempty?_eq_some {number : Option String} {n : String} :
    nonempty? number = some n ↔ number = some n ∧ n ≠ "" := by
  cases number with
  | none => simp [nonempty?]
  | some m =>
    by_cases hm : m = "" <;> simp only [nonempty?, hm, if_true, if_false, Option.some.injEq]
    · simp [eq_comm]
    · exact ⟨fun h => ⟨h, h ▸ hm⟩, fun h => h.1⟩

theorem nonempty?_isSome {number : Option String} :
    (nonempty? number).isSome ↔ ∃ n, number = some n ∧ n ≠ "" := by
  cases number with
  | none => simp [nonempty?]
  | some n => by_cases hn : n = "" <;> simp [nonempty?, hn]

/-- The changes that store a code. -/
def pending (code : String) (expiresAt : DateTime) (purpose : OtpPurpose) : List CredentialChange :=
  [.otpCode (some code), .otpExpiresAt (some expiresAt), .otpPurpose (some purpose)]

section Storable
variable {keeps : BackupCode → Prop}

theorem storable_pending {code : String} {expiresAt : DateTime} {purpose : OtpPurpose}
    (h : expiresAt.offset = 0) : Storable keeps (pending code expiresAt purpose) := by
  simp [Storable, pending, CredentialChange.Storable, h]

theorem storable_clearOtp : Storable keeps CredentialChange.clearOtp := by
  simp [Storable, CredentialChange.clearOtp, CredentialChange.Storable]

theorem storable_acceptance (purpose : OtpPurpose) : Storable keeps (acceptance purpose) := by
  cases purpose <;> simp [Storable, acceptance, CredentialChange.clearOtp, CredentialChange.Storable]

theorem storable_sweep : Storable keeps [.otpExpiresAt none] := by
  simp [Storable, CredentialChange.Storable]

end Storable

/-- Issuing a code: without an account, a number to send to, a code or an expiry nothing is stored; a code that
cannot be sent stays stored. -/
theorem runOn_issue (h : w.Sound) (setup : Setup) (config : OtpConfig) (id : String) (purpose : OtpPurpose)
    (phoneNumber : Option String) :
    (issue setup config id purpose phoneNumber).runOn w =
      match w.account? id with
      | none => (.error (.refused (.accountNotFound id)), w)
      | some a =>
        match (nonempty? phoneNumber).or (nonempty? a.phoneNumber) with
        | none => (.error (.refused (.invariantViolation .challenge)), w)
        | some destination =>
          match drawnCode config.codeLength (setup.sources.draws w.drawn), w.clock.addMinutes? config.ttlMinutes with
          | .error f, _ => (.error (.fault f), w.drew 1)
          | .ok _, none => (.error (.fault .timeRange), w.drew 1)
          | .ok code, some expiresAt =>
            match w.outage with
            | some o => (.error (.refused (.smsDelivery (setup.carrier.problem o))),
                (w.drew 1).changed id (pending code expiresAt purpose))
            | none => (.ok (), (((w.drew 1).changed id (pending code expiresAt purpose)).sent
                ⟨destination, otpMessage config destination code⟩).logged setup .mfaChallengeSent (some id) none none
                (metadata purpose)) := by
  unfold issue
  rw [Action.runOn_bind, runOn_requireAccount h]
  cases ha : w.account? id with
  | none => rfl
  | some a =>
    dsimp only
    cases (nonempty? phoneNumber).or (nonempty? a.phoneNumber) with
    | none => rfl
    | some destination =>
      have hd := h.drew 1
      simp only [drawCode, Action.runOn_bind, runOn_draw]
      cases drawnCode config.codeLength (setup.sources.draws w.drawn) with
      | error f => rfl
      | ok code =>
        simp only [Action.runOn_pure, runOn_minutesFromNow hd, drew_clock]
        cases ht : w.clock.addMinutes? config.ttlMinutes with
        | none => rfl
        | some expiresAt =>
          have hs : Storable (LawfulStore.Keeps S) (pending code expiresAt purpose) :=
            storable_pending ((DateTime.offset_of_addMinutes ht).trans h.clock)
          have hc := hd.changed ha hs
          simp only [Action.runOn_orFail_some]
          rw [← pending, runOn_changeCredentials hd ha hs]
          simp only [runOn_send, changed_outage, drew_outage]
          cases w.outage with
          | some o => rfl
          | none =>
            dsimp only
            exact runOn_record (hc.sent _) ..

/-! ### How issuing a code ends -/

/-- What an issue stores: a code that was drawn and its expiry, for an account that is there. -/
structure Stores (setup : Setup) (config : OtpConfig) (id : String) (w : World S) (a : Account) (code : String)
    (expiresAt : DateTime) : Prop where
  account : w.account? id = some a
  drawn : drawnCode config.codeLength (setup.sources.draws w.drawn) = .ok code
  expiry : w.clock.addMinutes? config.ttlMinutes = some expiresAt

/-- The state after a code was stored. -/
@[simps!] def stored (id code : String) (expiresAt : DateTime) (purpose : OtpPurpose) (w : World S) : World S :=
  (w.drew 1).changed id (pending code expiresAt purpose)

section Stores
variable {setup : Setup} {config : OtpConfig} {id code : String} {expiresAt : DateTime}

theorem Stores.storable (h : w.Sound) (hs : Stores setup config id w a code expiresAt) (purpose : OtpPurpose) :
    Storable (LawfulStore.Keeps S) (pending code expiresAt purpose) :=
  storable_pending ((DateTime.offset_of_addMinutes hs.expiry).trans h.clock)

theorem Stores.account?_stored (h : w.Sound) (hs : Stores setup config id w a code expiresAt) (purpose : OtpPurpose) :
    (stored id code expiresAt purpose w).account? =
      Function.update w.account? id (some (a.changed (pending code expiresAt purpose))) :=
  account?_changed (h.drew 1) hs.account (hs.storable h purpose)

end Stores

/-- How issuing a code ends: the result, and the state that is left. -/
inductive IssueEnds (setup : Setup) (config : OtpConfig) (id : String) (purpose : OtpPurpose)
    (phoneNumber : Option String) (w : World S) : Except Failure Unit × World S → Prop
  | missing (ha : w.account? id = none) :
      IssueEnds setup config id purpose phoneNumber w (.error (.refused (.accountNotFound id)), w)
  | numberless {a : Account} (ha : w.account? id = some a)
      (hn : (nonempty? phoneNumber).or (nonempty? a.phoneNumber) = none) :
      IssueEnds setup config id purpose phoneNumber w (.error (.refused (.invariantViolation .challenge)), w)
  | undrawn {f : Fault} (hd : drawnCode config.codeLength (setup.sources.draws w.drawn) = .error f) :
      IssueEnds setup config id purpose phoneNumber w (.error (.fault f), w.drew 1)
  | endless (ht : w.clock.addMinutes? config.ttlMinutes = none) :
      IssueEnds setup config id purpose phoneNumber w (.error (.fault .timeRange), w.drew 1)
  | undelivered {a : Account} {code : String} {expiresAt : DateTime} {o : Outage}
      (hs : Stores setup config id w a code expiresAt) (ho : w.outage = some o) :
      IssueEnds setup config id purpose phoneNumber w
        (.error (.refused (.smsDelivery (setup.carrier.problem o))), stored id code expiresAt purpose w)
  | sent {a : Account} {code destination : String} {expiresAt : DateTime}
      (hs : Stores setup config id w a code expiresAt)
      (hn : (nonempty? phoneNumber).or (nonempty? a.phoneNumber) = some destination) (ho : w.outage = none) :
      IssueEnds setup config id purpose phoneNumber w
        (.ok (), ((stored id code expiresAt purpose w).sent
          ⟨destination, otpMessage config destination code⟩).logged setup .mfaChallengeSent (some id) none none
          (metadata purpose))

/-- **Every issue** ends in one of these ways. -/
theorem ends_issue (h : w.Sound) (setup : Setup) (config : OtpConfig) (id : String) (purpose : OtpPurpose)
    (phoneNumber : Option String) :
    IssueEnds setup config id purpose phoneNumber w ((issue setup config id purpose phoneNumber).runOn w) := by
  rw [runOn_issue h]
  cases ha : w.account? id with
  | none => exact .missing ha
  | some a =>
    dsimp only
    cases hn : (nonempty? phoneNumber).or (nonempty? a.phoneNumber) with
    | none => exact .numberless ha hn
    | some destination =>
      dsimp only
      cases hd : drawnCode config.codeLength (setup.sources.draws w.drawn) with
      | error f => exact .undrawn hd
      | ok code =>
        cases ht : w.clock.addMinutes? config.ttlMinutes with
        | none => exact .endless ht
        | some t =>
          have hs : Stores setup config id w a code t := ⟨ha, hd, ht⟩
          dsimp only
          cases ho : w.outage with
          | some o => exact .undelivered hs ho
          | none => exact .sent hs hn ho

/-! ## Checking -/

/-- The code that waits is for the purpose, or for none. -/
theorem pendingFor?_eq_some {slot : OtpSlot} {purpose : OtpPurpose} {code : String} :
    pendingFor? slot purpose = some code ↔ slot.code = some code ∧ ∀ p, slot.purpose = some p → p = purpose := by
  unfold pendingFor?
  cases slot.purpose with
  | none => simp
  | some p => by_cases hp : p = purpose <;> simp [hp]

/-- The code of a slot has run out, or has no expiry. -/
def isExpired (slot : OtpSlot) (now : DateTime) : Bool := slot.expiresAt.all (·.before now)

/-- The state after an expiry without a code was dropped, if there is one. -/
def swept (id : String) (slot : OtpSlot) (w : World S) : World S :=
  if slot.code.isNone ∧ slot.expiresAt.isSome then w.changed id [.otpExpiresAt none] else w

theorem runOn_hasExpired (h : w.Sound) (slot : OtpSlot) :
    (hasExpired slot).runOn w = (.ok (isExpired slot w.clock), w) := by
  unfold hasExpired isExpired
  cases slot.expiresAt with
  | none => rfl
  | some t => simp only [Action.runOn_bind, runOn_utcNow h, Action.runOn_pure, Option.all_some]

theorem runOn_reject {α : Type} (h : w.Sound) (setup : Setup) (id : String) (purpose : OtpPurpose)
    (e : SecurityError) :
    (reject setup id purpose e : Op S α).runOn w =
      (.error (.refused e), w.logged setup .mfaFailed (some id) none (some e) (metadata purpose)) := by
  simp only [reject, Action.runOn_bind, runOn_record h, Action.runOn_refuse]

theorem runOn_sweep {α : Type} (h : w.Sound) {id : String} (ha : w.account? id = some a) (slot : OtpSlot)
    (next : Op S α) :
    (if slot.code.isNone ∧ slot.expiresAt.isSome then do changeCredentials id [.otpExpiresAt none]; next
      else next : Op S α).runOn w = next.runOn (swept id slot w) := by
  unfold swept
  split
  · rw [Action.runOn_bind, runOn_changeCredentials h ha storable_sweep]
  · rfl

theorem sound_swept (h : w.Sound) {id : String} (ha : w.account? id = some a) (slot : OtpSlot) :
    (swept id slot w).Sound := by
  unfold swept
  split
  · exact h.changed ha storable_sweep
  · exact h

/-- Checking a code: the purpose first, then the expiry, then the code itself. -/
theorem runOn_verify (h : w.Sound) (setup : Setup) (id submitted : String) (purpose : OtpPurpose) :
    (verify setup id submitted purpose).runOn w =
      match w.account? id with
      | none => (.error (.refused (.accountNotFound id)), w)
      | some a =>
        match pendingFor? a.credentials.otp purpose with
        | none => (.error (.refused .otpNotPending), (swept id a.credentials.otp w).logged setup .mfaFailed (some id)
            none (some .otpNotPending) (metadata purpose))
        | some code =>
          if isExpired a.credentials.otp w.clock then
            (.error (.refused .otpExpired), (w.changed id CredentialChange.clearOtp).logged setup .mfaFailed (some id)
              none (some .otpExpired) (metadata purpose))
          else if code ≠ submitted then
            (.error (.refused .otpInvalid), w.logged setup .mfaFailed (some id) none (some .otpInvalid)
              (metadata purpose))
          else (.ok a, (w.changed id (acceptance purpose)).logged setup .mfaVerified (some id) none none
            (metadata purpose)) := by
  unfold verify
  rw [Action.runOn_bind, runOn_requireAccount h]
  cases ha : w.account? id with
  | none => rfl
  | some a =>
    dsimp only
    refine (runOn_sweep h ha a.credentials.otp _).trans ?_
    cases hp : pendingFor? a.credentials.otp purpose with
    | none => exact runOn_reject (sound_swept h ha _) ..
    | some code =>
      have hcode : a.credentials.otp.code = some code := by
        unfold pendingFor? at hp
        split at hp
        · cases hp
        · exact hp
      have hsw : swept id a.credentials.otp w = w := by simp [swept, hcode]
      have hc := h.changed ha storable_clearOtp
      have hv := h.changed ha (storable_acceptance purpose)
      dsimp only
      rw [hsw, Action.runOn_bind, runOn_hasExpired h]
      dsimp only
      split
      · rw [Action.runOn_bind, runOn_changeCredentials h ha storable_clearOtp]
        exact runOn_reject hc ..
      · split
        · exact runOn_reject h ..
        · rw [Action.runOn_bind, runOn_changeCredentials h ha (storable_acceptance purpose)]
          simp only [Action.runOn_bind_of_ok (runOn_record hv ..), Action.runOn_pure]

/-- How checking a code ends: the result, and the state that is left. -/
inductive VerifyEnds (setup : Setup) (id submitted : String) (purpose : OtpPurpose) (w : World S) :
    Except Failure Account × World S → Prop
  | missing (ha : w.account? id = none) :
      VerifyEnds setup id submitted purpose w (.error (.refused (.accountNotFound id)), w)
  | notPending {a : Account} (ha : w.account? id = some a) (hp : pendingFor? a.credentials.otp purpose = none) :
      VerifyEnds setup id submitted purpose w (.error (.refused .otpNotPending),
        (swept id a.credentials.otp w).logged setup .mfaFailed (some id) none (some .otpNotPending) (metadata purpose))
  | expired {a : Account} {code : String} (ha : w.account? id = some a)
      (hp : pendingFor? a.credentials.otp purpose = some code) (he : isExpired a.credentials.otp w.clock) :
      VerifyEnds setup id submitted purpose w (.error (.refused .otpExpired),
        (w.changed id CredentialChange.clearOtp).logged setup .mfaFailed (some id) none (some .otpExpired)
          (metadata purpose))
  | invalid {a : Account} {code : String} (ha : w.account? id = some a)
      (hp : pendingFor? a.credentials.otp purpose = some code) (he : isExpired a.credentials.otp w.clock = false)
      (hc : code ≠ submitted) :
      VerifyEnds setup id submitted purpose w (.error (.refused .otpInvalid),
        w.logged setup .mfaFailed (some id) none (some .otpInvalid) (metadata purpose))
  | accepted {a : Account} (ha : w.account? id = some a)
      (hp : pendingFor? a.credentials.otp purpose = some submitted) (he : isExpired a.credentials.otp w.clock = false) :
      VerifyEnds setup id submitted purpose w (.ok a,
        (w.changed id (acceptance purpose)).logged setup .mfaVerified (some id) none none (metadata purpose))

/-- **Every check** ends in one of these ways. -/
theorem ends_verify (h : w.Sound) (setup : Setup) (id submitted : String) (purpose : OtpPurpose) :
    VerifyEnds setup id submitted purpose w ((verify setup id submitted purpose).runOn w) := by
  rw [runOn_verify h]
  cases ha : w.account? id with
  | none => exact .missing ha
  | some a =>
    dsimp only
    cases hp : pendingFor? a.credentials.otp purpose with
    | none => exact .notPending ha hp
    | some code =>
      dsimp only
      by_cases he : isExpired a.credentials.otp w.clock
      · rw [if_pos he]
        exact .expired ha hp he
      · rw [if_neg he]
        have he' : isExpired a.credentials.otp w.clock = false := by simpa using he
        by_cases hc : code = submitted
        · subst hc
          rw [if_neg (by simp)]
          exact .accepted ha hp he'
        · rw [if_pos hc]
          exact .invalid ha hp he' hc

/-- An accepted code is the pending one, in time and for its purpose, and is used up. -/
theorem of_runOn_verify_ok (h : w.Sound) {setup : Setup} {id submitted : String} {purpose : OtpPurpose} {v : World S}
    (hr : (verify setup id submitted purpose).runOn w = (.ok a, v)) :
    w.account? id = some a ∧ pendingFor? a.credentials.otp purpose = some submitted ∧
      isExpired a.credentials.otp w.clock = false ∧
      v = (w.changed id (acceptance purpose)).logged setup .mfaVerified (some id) none none (metadata purpose) := by
  have hends := ends_verify h setup id submitted purpose
  rw [hr] at hends
  cases hends with
  | accepted ha hp he => exact ⟨ha, hp, he, rfl⟩

/-- The state after a code was accepted. -/
theorem account?_of_verify_ok (h : w.Sound) {setup : Setup} {id submitted : String} {purpose : OtpPurpose} {v : World S}
    (hr : (verify setup id submitted purpose).runOn w = (.ok a, v)) :
    v.Sound ∧ v.account? id = some (a.changed (acceptance purpose)) ∧ v.clock = w.clock := by
  obtain ⟨ha, -, -, rfl⟩ := of_runOn_verify_ok h hr
  have hs : Storable (LawfulStore.Keeps S) _ := storable_acceptance purpose
  exact ⟨(h.changed ha hs).logged .., account?_changed_self h ha hs, rfl⟩

theorem runOn_clear (h : w.Sound) (id : String) :
    (clear id).runOn w =
      match w.account? id with
      | none => (.error (.refused (.accountNotFound id)), w)
      | some _ => (.ok (), w.changed id CredentialChange.clearOtp) := by
  cases ha : w.account? id with
  | none => exact runOn_changeCredentials_missing h ha storable_clearOtp
  | some a => exact runOn_changeCredentials h ha storable_clearOtp

end AccountSecurity.OtpChallenge
