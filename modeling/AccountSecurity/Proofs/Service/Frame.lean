import AccountSecurity.Proofs.Service.TokenIssuer
import AccountSecurity.Proofs.Service.OtpChallenge
import AccountSecurity.Proofs.Store.Records
import AccountSecurity.Proofs.Service.BackupRoom
import AccountSecurity.Service.Login
import AccountSecurity.Service.SmsFactor
import AccountSecurity.Service.TotpFactor

/-!
# What the services leave alone

The calls of the services, put together from operations that touch one account at most. Nothing is asked of the clock,
nor that the accounts can be read.

* `World.InOrder` : refresh tokens were taken from the source, so that a new one does not stand for another session;
* `Leaves`, `Touches` : nothing of store, sessions and messages changes, or only what belongs to one account;
* `Keeps` : an operation that touches one account and sends nothing, with what holds of its result. Operations are
  put together by `Keeps.bind`;
* `Sends`, `Texts` : what issuing a code does, with the one message that it may send;
* `sends_issue`, `sends_login`, `sends_initiate`, and `keeps_verify` and its like : the calls for one account;
* `Registers`, `Exchanges` : what a registration and an exchange of tokens do.
-/

namespace AccountSecurity
open World RecordStore
variable {S : Type} [AccountStore S] [RecordStore S] {setup : Setup} {w v x : World S} {id : String}

/-! ## What belongs to others -/

/-- The store is valid, and every session is under a refresh token that was taken from the source. -/
structure World.InOrder (setup : Setup) (w : World S) : Prop where
  store : Valid w.store
  sessions : ∀ t s, w.sessions.get? t = some s → ∃ n < w.tokensTaken, setup.sources.tokens n = t

/-- Store, sessions and sent messages are as they were. -/
structure Leaves (w v : World S) : Prop where
  store : v.store = w.store
  sessions : v.sessions = w.sessions
  outbox : v.outbox = w.outbox
  tokensTaken : v.tokensTaken = w.tokensTaken
  drawn : w.drawn ≤ v.drawn

/-- Nothing changes but what belongs to an account, and messages are sent. -/
structure Touches (setup : Setup) (id : String) (sent : List TextMessage) (w v : World S) : Prop where
  order : v.InOrder setup
  records : ∀ k, k ≠ id → record v.store k = record w.store k
  sessions : ∀ t s, s.account.id ≠ id → (v.sessions.get? t = some s ↔ w.sessions.get? t = some s)
  outbox : v.outbox = w.outbox ++ sent
  drawn : w.drawn ≤ v.drawn

omit [AccountStore S] [RecordStore S] in
theorem Leaves.refl (w : World S) : Leaves w w := ⟨rfl, rfl, rfl, rfl, Nat.le_refl _⟩

theorem World.InOrder.leave (hw : w.InOrder setup) (h : Leaves w v) : v.InOrder setup where
  store := h.store ▸ hw.store
  sessions t s hs := by
    rw [h.sessions] at hs
    rw [h.tokensTaken]
    exact hw.sessions t s hs

/-- A refresh token that was not taken yet stands for no session. -/
theorem World.InOrder.get?_of_le (hw : w.InOrder setup) (hinj : Function.Injective setup.sources.tokens) {n : Nat}
    (hn : w.tokensTaken ≤ n) : w.sessions.get? (setup.sources.tokens n) = none := by
  refine Option.eq_none_iff_forall_ne_some.2 fun s hs => ?_
  obtain ⟨m, hm, hmn⟩ := hw.sessions _ s hs
  have hmn := hinj hmn
  omega

theorem Touches.of_leaves (hw : w.InOrder setup) (h : Leaves w v) : Touches setup id [] w v where
  order := hw.leave h
  records k _ := by rw [h.store]
  sessions t s _ := by rw [h.sessions]
  outbox := by rw [h.outbox, List.append_nil]
  drawn := h.drawn

theorem Touches.trans {sent sent' : List TextMessage} (h : Touches setup id sent w v)
    (h' : Touches setup id sent' v x) : Touches setup id (sent ++ sent') w x where
  order := h'.order
  records k hk := (h'.records k hk).trans (h.records k hk)
  sessions t s hs := (h'.sessions t s hs).trans (h.sessions t s hs)
  outbox := by rw [h'.outbox, h.outbox, List.append_assoc]
  drawn := h.drawn.trans h'.drawn

/-- Replacing the record of an account touches that account only. -/
theorem Touches.of_store {t : S} {r : Option (Record S)} (hw : w.InOrder setup) (ht : Valid t)
    (hr : record t = Function.update (record w.store) id r) : Touches setup id [] w { w with store := t } where
  order := ⟨ht, hw.sessions⟩
  records k hk := by
    show record t k = _
    rw [hr, Function.update_of_ne hk]
  sessions _ _ _ := Iff.rfl
  outbox := (List.append_nil _).symm
  drawn := Nat.le_refl _

/-! ## Operations that leave everything -/

namespace Action
variable {σ α β : Type}

/-- The state after two actions, of which the second is left out if the first fails. -/
theorem after_bind (x : Action σ α) (f : α → Action σ β) (s : σ) :
    (x >>= f).after s =
      match x.outcome s with
      | .ok a => (f a).after (x.after s)
      | .error _ => x.after s := by
  unfold after outcome
  rw [runOn_bind]
  rcases x.runOn s with ⟨⟨⟩ | ⟨⟩, t⟩ <;> rfl

theorem outcome_bind (x : Action σ α) (f : α → Action σ β) (s : σ) :
    (x >>= f).outcome s =
      match x.outcome s with
      | .ok a => (f a).outcome (x.after s)
      | .error e => .error e := by
  unfold after outcome
  rw [runOn_bind]
  rcases x.runOn s with ⟨⟨⟩ | ⟨⟩, t⟩ <;> rfl

end Action

section
variable {α β : Type}
omit [AccountStore S] [RecordStore S]

theorem Leaves.bind {a : Op S α} {f : α → Op S β} (ha : Leaves w (a.after w))
    (hf : ∀ r u, Leaves w u → Leaves w ((f r).after u)) : Leaves w ((a >>= f).after w) := by
  rw [Action.after_bind]
  cases a.outcome w with
  | error e => exact ha
  | ok r => exact hf r _ ha

theorem after_utcNow (w : World S) : utcNow.after w = w := by
  unfold utcNow Action.after
  rw [Action.runOn_bind_of_ok (Action.runOn_get w)]
  cases w.clock.toUtc? <;> rfl

theorem leaves_utcNow (w : World S) : Leaves w (utcNow.after w) := by
  rw [after_utcNow]
  exact .refl w

theorem leaves_minutesFromNow (minutes : Int) (w : World S) : Leaves w ((minutesFromNow minutes).after w) := by
  refine (leaves_utcNow w).bind fun now u hu => ?_
  cases now.addMinutes? minutes <;> exact hu

theorem after_noteContext (context : Option RequestContext) (w : World S) : (noteContext context).after w = w := by
  unfold noteContext
  split
  · rw [Action.after_bind, after_utcNow]
    cases utcNow.outcome w <;> rfl
  · rfl

/-- Recording an event changes the log only. -/
theorem leaves_record (setup : Setup) (t : EventType) (p : Option String) (c : Option RequestContext)
    (e : Option SecurityError) (m : List (String × Json)) (w : World S) :
    Leaves w ((World.record setup t p c e m).after w) := by
  unfold World.record
  split
  · exact (leaves_utcNow w).bind fun _ _ hu => ⟨hu.store, hu.sessions, hu.outbox, hu.tokensTaken, hu.drawn⟩
  · exact .refl w

theorem leaves_drawMany (setup : Setup) (count : Nat) (w : World S) :
    Leaves w ((drawMany setup count).after w) := by
  unfold Action.after
  rw [runOn_drawMany]
  exact ⟨rfl, rfl, rfl, rfl, Nat.le_add_right ..⟩

theorem leaves_loginRefuse (setup : Setup) (t : EventType) (p : Option String) (c : Option RequestContext)
    (e : SecurityError) (m : List (String × Json)) (w : World S) :
    Leaves w ((Login.refuse setup t p c e m : Op S α).after w) :=
  (leaves_record ..).bind fun _ _ hu => hu

theorem leaves_hasExpired (slot : OtpSlot) (w : World S) : Leaves w ((OtpChallenge.hasExpired slot).after w) := by
  unfold OtpChallenge.hasExpired
  split
  · exact (leaves_utcNow w).bind fun _ _ hu => hu
  · exact .refl w

theorem leaves_check (setup : Setup) (secret submitted : String) (w : World S) :
    Leaves w ((TotpFactor.check setup secret submitted).after w) := by
  unfold TotpFactor.check Action.after
  rw [Action.runOn_bind_of_ok (Action.runOn_get w), Action.runOn_ofExcept]
  exact .refl w

end

/-! ## Operations for one account -/

/-- An operation that touches one account and sends nothing, with what holds of its result. -/
def Keeps {α : Type} (setup : Setup) (id : String) (Q : α → Prop) (a : Op S α) : Prop :=
  ∀ w, w.InOrder setup → Touches setup id [] w (a.after w) ∧ ∀ r, a.outcome w = .ok r → Q r

namespace Keeps
variable {α β : Type} {P : α → Prop} {Q : β → Prop}

theorem bind {a : Op S α} {f : α → Op S β} (ha : Keeps setup id P a) (hf : ∀ r, P r → Keeps setup id Q (f r)) :
    Keeps setup id Q (a >>= f) := by
  intro w hw
  obtain ⟨ht, hP⟩ := ha w hw
  rw [Action.after_bind, Action.outcome_bind]
  cases ho : a.outcome w with
  | error e => exact ⟨ht, fun r h => by cases h⟩
  | ok r =>
    obtain ⟨ht', hQ⟩ := hf r (hP r ho) _ ht.order
    exact ⟨ht.trans ht', hQ⟩

theorem of_leaves {a : Op S α} (h : ∀ w, Leaves w (a.after w)) : Keeps setup id (fun _ => True) a :=
  fun w hw => ⟨.of_leaves hw (h w), fun _ _ => trivial⟩

/-- What leaves everything may go first. -/
theorem after_leaving {a : Op S α} {f : α → Op S β} (ha : ∀ w, Leaves w (a.after w))
    (hf : ∀ r, Keeps setup id Q (f r)) : Keeps setup id Q (a >>= f) :=
  (of_leaves ha).bind fun r _ => hf r

theorem ret {r : α} (h : P r) : Keeps setup id P (pure r : Op S α) :=
  fun w hw => ⟨.of_leaves hw (.refl w), fun _ hr => Except.ok.inj hr ▸ h⟩

theorem refuse (e : SecurityError) : Keeps setup id P (Action.refuse e : Op S α) :=
  fun w hw => ⟨.of_leaves hw (.refl w), fun r h => by cases h⟩

theorem fail (f : Fault) : Keeps setup id P (Action.fail f : Op S α) :=
  fun w hw => ⟨.of_leaves hw (.refl w), fun r h => by cases h⟩

theorem ofExcept (r : Except Failure α) : Keeps setup id (fun _ => True) (Action.ofExcept r : Op S α) :=
  of_leaves fun w => by
    unfold Action.after
    rw [Action.runOn_ofExcept]
    exact .refl w

theorem loginRefuse {t : EventType} {p : Option String} {c : Option RequestContext} {e : SecurityError}
    {m : List (String × Json)} : Keeps setup id (fun _ => True) (Login.refuse setup t p c e m : Op S α) :=
  of_leaves fun w => leaves_loginRefuse setup t p c e m w

theorem map {a : Op S α} (f : α → β) (ha : Keeps setup id P a) : Keeps setup id (fun _ => True) (f <$> a) := by
  rw [← bind_pure_comp]
  exact ha.bind fun _ _ => ret trivial

end Keeps

omit [AccountStore S] [RecordStore S] in
theorem runOn_onStore {α : Type} {a : Action S α} {r : Except Failure α} {t : S} (h : a.runOn w.store = (r, t)) :
    (onStore a).runOn w = (r, { w with store := t }) := by
  rw [onStore, Action.runOn_within, h]

/-- Looking up an account by its identifier changes nothing. -/
theorem runOn_required (hw : w.InOrder setup) (id : String) :
    ∃ r, (requireAccount id).runOn w = (r, w) ∧
      ∀ a, r = .ok a → a.id = id ∧ (record w.store id).map phoneNumber = some a.phoneNumber := by
  obtain ⟨found, hr, hfound⟩ := runOn_findById id hw.store
  have hon : (onStore (AccountStore.findById id)).runOn w = (found, w) := runOn_onStore hr
  unfold requireAccount
  cases found with
  | error e => exact ⟨_, Action.runOn_bind_of_error hon, fun a h => by cases h⟩
  | ok found =>
    rw [Action.runOn_bind_of_ok hon]
    cases found with
    | none => exact ⟨_, rfl, fun a h => by cases h⟩
    | some a =>
      refine ⟨_, rfl, fun b hb => ?_⟩
      obtain rfl := Except.ok.inj hb
      exact hfound a rfl

theorem keeps_requireAccount (id : String) : Keeps setup id (fun a => a.id = id) (requireAccount (S := S) id) := by
  intro w hw
  obtain ⟨r, hr, ha⟩ := runOn_required hw id
  rw [Action.after, Action.outcome, hr]
  exact ⟨.of_leaves hw (.refl w), fun a h => (ha a h).1⟩

/-- A change of credentials touches its account and keeps the number; a code that is stored waits. -/
theorem runOn_change (hw : w.InOrder setup) (id : String) (changes : List CredentialChange) :
    ∃ result u, (changeCredentials id changes).runOn w = (result, u) ∧ Touches setup id [] w u ∧
      (record u.store id).map phoneNumber = (record w.store id).map phoneNumber ∧
      ∀ code expiresAt purpose, changes = OtpChallenge.pending code expiresAt purpose → result = .ok () →
        (record u.store id).map pendingCode = some (some code) := by
  obtain ⟨result, t, r, hr, ht, hrec, hphone, hcode⟩ := runOn_updateCredentials id changes hw.store
  have hself : record t id = r := by rw [hrec, Function.update_self]
  refine ⟨result, { w with store := t }, runOn_onStore hr, .of_store hw ht hrec, ?_,
    fun code expiresAt purpose hc hok => ?_⟩
  · exact (congrArg _ hself).trans hphone
  · exact (congrArg _ hself).trans (hcode (some code) (some expiresAt) (some purpose) hc hok)

theorem keeps_changeCredentials (id : String) (changes : List CredentialChange) :
    Keeps setup id (fun _ => True) (changeCredentials (S := S) id changes) := by
  intro w hw
  obtain ⟨result, u, hr, hu, -⟩ := runOn_change hw id changes
  rw [Action.after, hr]
  exact ⟨hu, fun _ _ => trivial⟩

theorem keeps_count (id : String) :
    Keeps setup id (fun _ => True) (onStore (S := S) (AccountStore.incrementAttempts id)) := by
  intro w hw
  obtain ⟨result, t, r, hr, ht, hrec⟩ := runOn_incrementAttempts id hw.store
  rw [Action.after, runOn_onStore hr]
  exact ⟨.of_store hw ht hrec, fun _ _ => trivial⟩

/-! ## Codes by message -/

/-- What issuing a code does: it touches one account and sends at most one message, with the code that was drawn
meanwhile and waits for the account, to a number that may be the account's own. -/
inductive Sends (setup : Setup) (config : OtpConfig) (id : String) (addressee : Option String → Option String)
    (w v : World S) : Prop
  | nothing (ht : Touches setup id [] w v)
  | message {own : Option String} {recipient code : String} {n : Nat}
      (ht : Touches setup id [⟨recipient, otpMessage config recipient code⟩] w v)
      (hown : (record w.store id).map phoneNumber = some own) (hto : addressee own = some recipient)
      (hcode : (record v.store id).map pendingCode = some (some code))
      (hdrawn : drawnCode config.codeLength (setup.sources.draws n) = .ok code) (hfrom : w.drawn ≤ n)
      (huntil : n < v.drawn)

section
variable {config : OtpConfig} {addressee addressee' : Option String → Option String}

/-- What goes before may change the number. -/
theorem Touches.sends (h : Touches setup id [] w v) (hs : Sends setup config id addressee v x)
    (hto : ∀ own recipient, (record v.store id).map phoneNumber = some own → addressee own = some recipient →
      ∃ own', (record w.store id).map phoneNumber = some own' ∧ addressee' own' = some recipient) :
    Sends setup config id addressee' w x := by
  cases hs with
  | nothing ht => exact .nothing (h.trans ht)
  | message ht hown hrecipient hcode hdrawn hfrom huntil =>
    obtain ⟨own', hown', hto'⟩ := hto _ _ hown hrecipient
    exact .message (h.trans ht) hown' hto' hcode hdrawn (h.drawn.trans hfrom) huntil

theorem Sends.leave (hs : Sends setup config id addressee w v) (h : Leaves v x) :
    Sends setup config id addressee w x := by
  cases hs with
  | nothing ht => exact .nothing (ht.trans (.of_leaves ht.order h))
  | message ht hown hto hcode hdrawn hfrom huntil =>
    exact .message (ht.trans (.of_leaves ht.order h)) hown hto (h.store ▸ hcode) hdrawn hfrom (huntil.trans_le h.drawn)

end

/-- Sending the code that waits for an account. -/
theorem Touches.deliver {config : OtpConfig} {addressee : Option String → Option String} {own : Option String}
    {recipient code : String} {n : Nat} {next : Unit → Op S Unit} (h : Touches setup id [] w v)
    (hown : (record w.store id).map phoneNumber = some own) (hto : addressee own = some recipient)
    (hcode : (record v.store id).map pendingCode = some (some code))
    (hdrawn : drawnCode config.codeLength (setup.sources.draws n) = .ok code) (hfrom : w.drawn ≤ n)
    (huntil : n < v.drawn) (hnext : ∀ r u, Leaves u ((next r).after u)) :
    Sends setup config id addressee w
      ((send setup ⟨recipient, otpMessage config recipient code⟩ >>= next).after v) := by
  unfold Action.after
  rw [Action.runOn_bind, runOn_send]
  cases v.outage with
  | some o => exact .nothing h
  | none =>
    have houtbox : (v.sent ⟨recipient, otpMessage config recipient code⟩).outbox =
        w.outbox ++ [⟨recipient, otpMessage config recipient code⟩] := by
      rw [sent_outbox, h.outbox, List.append_nil]
    have hsent : Sends setup config id addressee w (v.sent ⟨recipient, otpMessage config recipient code⟩) :=
      .message ⟨⟨h.order.store, h.order.sessions⟩, h.records, h.sessions, houtbox, h.drawn⟩ hown hto hcode hdrawn
        hfrom huntil
    exact hsent.leave (hnext () _)

/-- **Every issue** touches its account, and sends at most the code that it stored. -/
theorem sends_issue (hw : w.InOrder setup) (config : OtpConfig) (id : String) (purpose : OtpPurpose)
    (number : Option String) :
    Sends setup config id (fun own => (OtpChallenge.nonempty? number).or (OtpChallenge.nonempty? own)) w
      ((OtpChallenge.issue setup config id purpose number).after w) := by
  have hdrew : Touches setup id [] w (w.drew 1) := .of_leaves hw ⟨rfl, rfl, rfl, rfl, Nat.le_succ _⟩
  obtain ⟨r, hr, ha⟩ := runOn_required hw id
  unfold OtpChallenge.issue Action.after
  cases r with
  | error e =>
    rw [Action.runOn_bind_of_error hr]
    exact .nothing (.of_leaves hw (.refl w))
  | ok a =>
    obtain ⟨-, hown⟩ := ha a rfl
    rw [Action.runOn_bind_of_ok hr]
    cases hto : (OtpChallenge.nonempty? number).or (OtpChallenge.nonempty? a.phoneNumber) with
    | none => exact .nothing (.of_leaves hw (.refl w))
    | some recipient =>
      dsimp only
      have hdraw := OtpChallenge.runOn_drawCode_eq setup config w
      cases hdrawn : drawnCode config.codeLength (setup.sources.draws w.drawn) with
      | error f =>
        rw [hdrawn] at hdraw
        rw [Action.runOn_bind_of_error hdraw]
        exact .nothing hdrew
      | ok code =>
        rw [hdrawn] at hdraw
        rw [Action.runOn_bind_of_ok hdraw, ← Action.after, Action.after_bind]
        have hminutes := leaves_minutesFromNow config.ttlMinutes (w.drew 1)
        have hu := hdrew.trans (.of_leaves hdrew.order hminutes)
        cases (minutesFromNow config.ttlMinutes).outcome (w.drew 1) with
        | error e => exact .nothing hu
        | ok expiresAt =>
          obtain ⟨result, u, hstore, hstored, -, hcode⟩ :=
            runOn_change hu.order id (OtpChallenge.pending code expiresAt purpose)
          have hv := hu.trans hstored
          dsimp only
          rw [← OtpChallenge.pending, Action.after]
          cases result with
          | error e =>
            rw [Action.runOn_bind_of_error hstore]
            exact .nothing hv
          | ok _ =>
            rw [Action.runOn_bind_of_ok hstore]
            exact hv.deliver hown hto (hcode code expiresAt purpose rfl rfl) hdrawn (Nat.le_refl _)
              (Nat.lt_of_lt_of_le (Nat.lt_succ_self _) (hminutes.drawn.trans hstored.drawn)) fun _ _ => leaves_record ..

/-- An operation that starts where only one account was touched, and that may end with a message. -/
def Texts {α : Type} (setup : Setup) (config : OtpConfig) (id : String) (addressee : Option String → Option String)
    (w : World S) (a : Op S α) : Prop :=
  ∀ v, Touches setup id [] w v → Sends setup config id addressee w (a.after v)

namespace Texts
variable {α β : Type} {P : α → Prop} {config : OtpConfig} {addressee : Option String → Option String}

theorem of_keeps {a : Op S α} (h : Keeps setup id P a) : Texts setup config id addressee w a :=
  fun v hv => .nothing (hv.trans (h v hv.order).1)

theorem bind {a : Op S α} {f : α → Op S β} (ha : Keeps setup id P a)
    (hf : ∀ r, P r → Texts setup config id addressee w (f r)) : Texts setup config id addressee w (a >>= f) := by
  intro v hv
  obtain ⟨ht, hP⟩ := ha v hv.order
  rw [Action.after_bind]
  cases ho : a.outcome v with
  | error e => exact .nothing (hv.trans ht)
  | ok r => exact hf r (hP r ho) _ (hv.trans ht)

/-- What leaves everything may go last. -/
theorem leave {a : Op S α} {f : α → Op S β} (ha : Texts setup config id addressee w a)
    (hf : ∀ r u, Leaves u ((f r).after u)) : Texts setup config id addressee w (a >>= f) := by
  intro v hv
  rw [Action.after_bind]
  cases a.outcome v with
  | error e => exact ha v hv
  | ok r => exact (ha v hv).leave (hf r _)

/-- Issuing a code to a number that goes back to the start. -/
theorem issue {purpose : OtpPurpose} {number own : Option String}
    (hown : (record w.store id).map phoneNumber = some own)
    (hto : ∀ recipient, OtpChallenge.nonempty? number = some recipient → addressee own = some recipient)
    (hnumber : (OtpChallenge.nonempty? number).isSome) :
    Texts setup config id addressee w (OtpChallenge.issue setup config id purpose number) := by
  obtain ⟨n, hn⟩ := Option.isSome_iff_exists.1 hnumber
  intro v hv
  refine hv.sends (sends_issue hv.order config id purpose number) fun _ recipient _ hr => ⟨own, hown, hto recipient ?_⟩
  rw [hn, Option.some_or] at hr
  rw [hn, hr]

end Texts

/-! ## Tokens -/

/-- A session under the next refresh token stands in the place of no other. -/
theorem Touches.opened (hw : w.InOrder setup) (hinj : Function.Injective setup.sources.tokens) {s : Session}
    (hs : s.account.id = id) :
    Touches setup id [] w (w.tookTokens.opened (setup.sources.tokens (w.tokensTaken + 1)) s) where
  order := by
    refine ⟨hw.store, fun t s' ht => ?_⟩
    rw [opened_sessions, Table.get?_put] at ht
    rw [opened_tokensTaken, tookTokens_tokensTaken]
    split at ht
    · next he => exact ⟨w.tokensTaken + 1, by omega, he⟩
    · obtain ⟨n, hn, he⟩ := hw.sessions t s' ht
      exact ⟨n, by omega, he⟩
  records _ _ := rfl
  sessions t s' hs' := by
    rw [opened_sessions, Table.get?_put, tookTokens_sessions]
    split
    · next he =>
      subst he
      rw [hw.get?_of_le hinj (Nat.le_succ _)]
      constructor
      · intro h
        cases h
        exact absurd hs hs'
      · intro h
        cases h
    · exact Iff.rfl
  outbox := (List.append_nil _).symm
  drawn := Nat.le_refl _

theorem World.InOrder.took (hw : w.InOrder setup) : w.tookTokens.InOrder setup where
  store := hw.store
  sessions t s ht := by
    obtain ⟨n, hn, he⟩ := hw.sessions t s ht
    exact ⟨n, by rw [tookTokens_tokensTaken]; omega, he⟩

theorem Touches.took (hw : w.InOrder setup) : Touches setup id [] w w.tookTokens where
  order := hw.took
  records _ _ := rfl
  sessions _ _ _ := Iff.rfl
  outbox := (List.append_nil _).symm
  drawn := Nat.le_refl _

omit [AccountStore S] [RecordStore S] in
/-- Opening a session takes two tokens, unless there is no time, and puts it under the second. -/
theorem after_issueTokens (setup : Setup) (view : AccountView) (w : World S) :
    ∃ u, Leaves w u ∧
      ((TokenIssuer.issue setup view).after w = u ∨ (TokenIssuer.issue setup view).after w = u.tookTokens ∨
        ∃ s, s.account = view ∧ (TokenIssuer.issue setup view).after w =
          u.tookTokens.opened (setup.sources.tokens (u.tokensTaken + 1)) s) := by
  refine ⟨_, leaves_utcNow w, ?_⟩
  unfold TokenIssuer.issue
  rw [Action.after_bind]
  generalize utcNow.after w = u
  cases utcNow.outcome w with
  | error e => exact .inl rfl
  | ok now =>
    right
    have hr : (nextToken setup).runOn { u with tokensTaken := u.tokensTaken + 1 } =
        (.ok (setup.sources.tokens (u.tokensTaken + 1)), u.tookTokens) := rfl
    dsimp only [Action.after]
    rw [Action.runOn_bind_of_ok (show (nextToken setup).runOn u = (.ok _, _) from rfl), Action.runOn_bind_of_ok hr,
      Action.runOn_bind]
    cases now.addSeconds? setup.lifetimes.accessSeconds with
    | none => exact .inl rfl
    | some t =>
      rw [Action.runOn_orFail_some]
      dsimp only
      rw [Action.runOn_bind]
      cases now.addSeconds? setup.lifetimes.refreshSeconds with
      | none => exact .inl rfl
      | some t' => exact .inr ⟨_, rfl, rfl⟩

theorem keeps_issueTokens (hinj : Function.Injective setup.sources.tokens) {view : AccountView} (hid : view.id = id) :
    Keeps (S := S) setup id (fun _ => True) (TokenIssuer.issue setup view) := by
  intro w hw
  refine ⟨?_, fun _ _ => trivial⟩
  obtain ⟨u, hu, h | h | ⟨s, hs, h⟩⟩ := after_issueTokens setup view w
  · exact h ▸ .of_leaves hw hu
  · exact h ▸ (Touches.of_leaves hw hu).trans (.took (hw.leave hu))
  · exact h ▸ (Touches.of_leaves hw hu).trans (.opened (hw.leave hu) hinj (hs ▸ hid))

/-! ## The calls of each service -/

namespace Keeps
variable {α : Type} {P : α → Prop}

/-- Whether or not some credentials are changed first. -/
theorem ite_change {c : Prop} [Decidable c] {changes : List CredentialChange} {next : Op S α}
    (h : Keeps setup id P next) :
    Keeps setup id P (if c then do changeCredentials id changes; next else next) := by
  split
  · exact (keeps_changeCredentials id changes).bind fun _ _ => h
  · exact h

theorem recording {β : Type} {Q : β → Prop} {t : EventType} {p : Option String} {c : Option RequestContext}
    {e : Option SecurityError} {m : List (String × Json)} {f : Unit → Op S β} (hf : ∀ r, Keeps setup id Q (f r)) :
    Keeps setup id Q (World.record setup t p c e m >>= f) :=
  after_leaving (leaves_record setup t p c e m) hf

/-- A change of credentials is recorded. -/
theorem change_record {r : α} {changes : List CredentialChange} {t : EventType} {p : Option String}
    {c : Option RequestContext} {e : Option SecurityError} {m : List (String × Json)} (hr : P r) :
    Keeps (S := S) setup id P (do
      changeCredentials id changes
      World.record setup t p c e m
      return r) :=
  (keeps_changeCredentials id changes).bind fun _ _ => recording fun _ => ret hr

end Keeps

theorem keeps_verify (id submitted : String) (purpose : OtpPurpose) :
    Keeps (S := S) setup id (fun a => a.id = id) (OtpChallenge.verify setup id submitted purpose) := by
  have hreject : ∀ e, Keeps (S := S) (α := Account) setup id (fun a => a.id = id)
      (OtpChallenge.reject setup id purpose e) := fun e =>
    .recording fun _ => .refuse e
  unfold OtpChallenge.verify
  refine (keeps_requireAccount id).bind fun a ha => .ite_change ?_
  cases OtpChallenge.pendingFor? a.credentials.otp purpose with
  | none => exact hreject _
  | some code =>
    refine .after_leaving (leaves_hasExpired _) fun expired => ?_
    split
    · exact (keeps_changeCredentials id _).bind fun _ _ => hreject _
    · split
      · exact hreject _
      · exact .change_record ha

theorem keeps_clear (id : String) : Keeps (S := S) setup id (fun _ => True) (OtpChallenge.clear id) :=
  keeps_changeCredentials id _

theorem keeps_enableSms (id : String) : Keeps (S := S) setup id (fun _ => True) (SmsFactor.enable setup id) := by
  unfold SmsFactor.enable
  refine (keeps_requireAccount id).bind fun a _ => ?_
  split
  · exact .refuse _
  · exact .change_record trivial

theorem keeps_disableSms (id : String) : Keeps (S := S) setup id (fun _ => True) (SmsFactor.disable setup id) := by
  unfold SmsFactor.disable
  refine (keeps_requireAccount id).bind fun a _ => ?_
  split
  · exact .refuse _
  · exact (keeps_changeCredentials id _).bind fun _ _ => .change_record trivial

theorem keeps_generateTotp (id : String) :
    Keeps (S := S) setup id (fun _ => True) (TotpFactor.generate setup id) := by
  unfold TotpFactor.generate
  refine (keeps_requireAccount id).bind fun a _ => .after_leaving (leaves_drawMany setup _) fun draws => ?_
  exact (Keeps.ofExcept _).bind fun _ _ => (keeps_changeCredentials id _).bind fun _ _ => .ret trivial

/-- A submitted code that turns a factor on or off. -/
theorem Keeps.checked {secret submitted : String} {changes : List CredentialChange} {t : EventType} :
    Keeps (S := S) setup id (fun _ => True) (do
      if ← TotpFactor.check setup secret submitted then
        changeCredentials id changes
        World.record setup t (some id) none none TotpFactor.metadata
        return true
      else
        TotpFactor.recordWrongCode setup id
        Action.refuse .totpInvalid) := by
  refine .after_leaving (leaves_check setup secret submitted) fun valid => ?_
  cases valid with
  | true => exact .change_record trivial
  | false => exact .recording fun _ => .refuse _

theorem keeps_enableTotp (id submitted : String) :
    Keeps (S := S) setup id (fun _ => True) (TotpFactor.enable setup id submitted) := by
  unfold TotpFactor.enable
  refine (keeps_requireAccount id).bind fun a _ => ?_
  cases TotpFactor.usableSecret? a.credentials with
  | none => exact .refuse _
  | some secret => exact .checked

theorem keeps_disableTotp (id submitted : String) :
    Keeps (S := S) setup id (fun _ => True) (TotpFactor.disable setup id submitted) := by
  unfold TotpFactor.disable
  refine (keeps_requireAccount id).bind fun a _ => ?_
  split
  · exact .refuse _
  · cases TotpFactor.usableSecret? a.credentials with
    | none => exact .refuse _
    | some secret => exact .checked

theorem keeps_validateTotp (id submitted : String) :
    Keeps (S := S) setup id (fun _ => True) (TotpFactor.validate setup id submitted) := by
  unfold TotpFactor.validate
  refine (keeps_requireAccount id).bind fun a _ => ?_
  split
  · exact .ret trivial
  · cases TotpFactor.usableSecret? a.credentials with
    | none => exact .refuse _
    | some secret =>
      refine .after_leaving (leaves_check setup secret submitted) fun valid => ?_
      cases valid with
      | true => exact .recording fun _ => .ret trivial
      | false => exact .recording fun _ => .ret trivial

theorem keeps_generateBackup (id : String) :
    Keeps (S := S) setup id (fun _ => True) (BackupVault.generate setup id) := by
  unfold BackupVault.generate
  refine (keeps_requireAccount id).bind fun a _ => ?_
  split
  · exact .refuse _
  · split
    · exact .fail _
    · cases hk : BackupVault.makeRoom setup.backup.maxStored a.credentials.backupCodes with
      | error e =>
        rw [BackupVault.eq_of_makeRoom_error hk]
        exact .refuse _
      | ok kept =>
        refine .after_leaving (leaves_drawMany setup _) fun draws => .after_leaving leaves_utcNow fun now => ?_
        exact .change_record trivial

theorem keeps_verifyBackup (id submitted : String) :
    Keeps (S := S) setup id (fun _ => True) (BackupVault.verify setup id submitted) := by
  unfold BackupVault.verify
  refine (keeps_requireAccount id).bind fun a _ => ?_
  dsimp only
  split
  · exact .ret trivial
  · cases BackupVault.findUnused? submitted a.credentials.backupCodes with
    | error f => exact .fail f
    | ok found =>
      cases found with
      | none => exact .recording fun _ => .ret trivial
      | some i => exact .after_leaving leaves_utcNow fun now => .change_record trivial

theorem keeps_remainingBackup (id : String) :
    Keeps (S := S) setup id (fun _ => True) (BackupVault.remaining id) := by
  unfold BackupVault.remaining
  refine (keeps_requireAccount id).bind fun a _ => ?_
  split
  · exact .fail _
  · exact .ret trivial

theorem keeps_countFailure {α : Type} {a : Account} (ha : a.id = id) (context : Option RequestContext) :
    Keeps (S := S) setup id (fun _ => True) (Login.countFailure setup a context : Op S α) := by
  subst ha
  unfold Login.countFailure
  refine (keeps_count a.id).bind fun attempts _ => ?_
  dsimp only
  split
  · exact .after_leaving (leaves_minutesFromNow _) fun lockedUntil =>
      (keeps_changeCredentials a.id _).bind fun _ _ => .loginRefuse
  · exact .loginRefuse

section
variable (hinj : Function.Injective setup.sources.tokens)
include hinj

theorem keeps_complete {a : Account} (ha : a.id = id) (context : Option RequestContext) :
    Keeps (S := S) setup id (fun _ => True) (Login.complete setup a context) := by
  unfold Login.complete
  exact (keeps_issueTokens hinj ha).bind fun tokens _ => .recording fun _ =>
    .ret trivial

theorem keeps_finish (id submitted : String) (context : Option RequestContext) :
    Keeps (S := S) setup id (fun _ => True) (Login.finish setup id submitted context) := by
  unfold Login.finish
  exact (keeps_verify id submitted _).bind fun a ha => .after_leaving leaves_utcNow fun now =>
    (keeps_changeCredentials id _).bind fun _ _ => keeps_complete hinj ha context

/-- What follows an accepted password, for an account whose number is the one at the start. -/
theorem texts_proceed {a : Account} (ha : a.id = id) (context : Option RequestContext)
    (hown : (record w.store id).map phoneNumber = some a.phoneNumber) :
    Texts setup setup.otp id (fun own => own) w (Login.proceed setup a context) := by
  unfold Login.proceed
  dsimp only
  split
  · exact .of_keeps .loginRefuse
  split
  · cases hn : OtpChallenge.nonempty? a.phoneNumber with
    | none => exact .of_keeps (P := fun _ => True) (.refuse _)
    | some number =>
      subst ha
      obtain ⟨hnumber, hne⟩ := OtpChallenge.nonempty?_eq_some.1 hn
      have hsome : OtpChallenge.nonempty? (some number) = some number := OtpChallenge.nonempty?_eq_some.2 ⟨rfl, hne⟩
      refine Texts.leave (.issue hown (fun recipient hr => ?_) (by rw [hsome]; rfl)) fun _ => .refl
      rw [hnumber, ← hsome, hr]
  · exact .of_keeps ((keeps_complete hinj ha context).bind fun _ _ => .ret (P := fun _ => True) trivial)

/-- A login touches the account that it finds. -/
theorem sends_login (hw : w.InOrder setup) {identifier : String} {a : Account} (ha : w.find? identifier = some a)
    (password : String) (context : Option RequestContext) :
    Sends setup setup.otp a.id (fun own => own) w
      ((Login.login setup identifier password context).after w) := by
  obtain ⟨found, hr, hfound⟩ := runOn_findByIdentifier identifier hw.store
  have hon : (onStore (AccountStore.findByIdentifier identifier)).runOn w = (found, w) := runOn_onStore hr
  have hok : found = .ok (some a) := by
    unfold World.find? Action.outcome at ha
    rw [hr] at ha
    cases found with
    | error e => cases ha
    | ok found => exact congrArg Except.ok ha
  subst hok
  have hown := hfound a rfl
  unfold Login.login Action.after
  rw [Action.runOn_bind_of_ok hon]
  refine Texts.bind (Keeps.of_leaves leaves_utcNow) (fun now _ => ?_) w (.of_leaves hw (.refl w))
  split
  · exact .of_keeps .loginRefuse
  refine Texts.bind (Keeps.ofExcept _) fun valid _ => ?_
  split
  · dsimp only
    split
    · exact Texts.bind (Keeps.fail (P := fun _ => False) _) fun _ h => h.elim
    · exact Texts.bind (Keeps.ofExcept _) fun newHash _ => Texts.bind (keeps_changeCredentials a.id _) fun _ _ =>
        texts_proceed hinj rfl context hown
  · exact .of_keeps (keeps_countFailure rfl context)

end

/-- A number is stored before a code is sent to it. -/
theorem sends_initiate (hw : w.InOrder setup) (id number : String) :
    Sends setup setup.phoneOtp id (fun _ => some number) w ((SmsFactor.initiate setup id number).after w) := by
  obtain ⟨r, hr, hfound⟩ := runOn_required hw id
  unfold SmsFactor.initiate Action.after
  cases r with
  | error e =>
    rw [Action.runOn_bind_of_error hr]
    exact .nothing (.of_leaves hw (.refl w))
  | ok a =>
    obtain ⟨-, hown⟩ := hfound a rfl
    rw [Action.runOn_bind_of_ok hr]
    -- a message goes to the number that is stored, which is the one that was given
    have hissue : ∀ v, Touches setup id [] w v → (record v.store id).map phoneNumber = some (some number) →
        Sends setup setup.phoneOtp id (fun _ => some number) w
          ((OtpChallenge.issue setup setup.phoneOtp id .phoneVerification (some number)).after v) := by
      intro v hv hphone
      refine hv.sends (sends_issue hv.order ..) fun own recipient ho hr => ⟨a.phoneNumber, hown, ?_⟩
      obtain rfl := Option.some.inj (ho.symm.trans hphone)
      rw [Option.or_self] at hr
      exact (OtpChallenge.nonempty?_eq_some.1 hr).1
    split
    · obtain ⟨result, t, r, hstore, ht, hrec, hphone⟩ := runOn_updateProfile id (some number) hw.store
      have hv : Touches setup id [] w { w with store := t } := .of_store hw ht hrec
      have hon := runOn_onStore hstore
      cases result with
      | error e =>
        rw [Action.runOn_bind_of_error hon]
        exact .nothing hv
      | ok _ =>
        obtain ⟨result, u, hchange, hu, hsame, -⟩ :=
          runOn_change hv.order id [.phoneVerified false, .smsEnabled false]
        rw [Action.runOn_bind_of_ok hon]
        cases result with
        | error e =>
          rw [Action.runOn_bind_of_error hchange]
          exact .nothing (hv.trans hu)
        | ok _ =>
          rw [Action.runOn_bind_of_ok hchange]
          refine hissue u (hv.trans hu) (hsame.trans ?_)
          show (record t id).map phoneNumber = _
          rw [hrec, Function.update_self]
          exact hphone rfl
    · next he => exact hissue w (.of_leaves hw (.refl w)) (hown.trans (congrArg some (not_not.1 he)))

/-! ## Calls for no account that is there -/

/-- A login with an address that no account has leaves everything. -/
theorem leaves_login (hw : w.InOrder setup) {identifier : String} (ha : w.find? identifier = none) (password : String)
    (context : Option RequestContext) : Leaves w ((Login.login setup identifier password context).after w) := by
  obtain ⟨found, hr, -⟩ := runOn_findByIdentifier identifier hw.store
  have hon : (onStore (AccountStore.findByIdentifier identifier)).runOn w = (found, w) := runOn_onStore hr
  unfold Login.login Action.after
  cases found with
  | error e =>
    rw [Action.runOn_bind_of_error hon]
    exact .refl w
  | ok found =>
    rw [Action.runOn_bind_of_ok hon]
    cases found with
    | none => exact leaves_loginRefuse ..
    | some a =>
      unfold World.find? Action.outcome at ha
      rw [hr] at ha
      cases ha

/-- What a registration does: accounts stay as they are. -/
structure Registers (setup : Setup) (w v : World S) : Prop where
  order : v.InOrder setup
  records : ∀ k r, record w.store k = some r → record v.store k = some r
  sessions : v.sessions = w.sessions
  outbox : v.outbox = w.outbox

theorem Registers.leave (h : Registers setup w v) (hx : Leaves v x) : Registers setup w x where
  order := h.order.leave hx
  records k r hr := by
    rw [hx.store]
    exact h.records k r hr
  sessions := hx.sessions.trans h.sessions
  outbox := hx.outbox.trans h.outbox

theorem registers_register (hw : w.InOrder setup) (registration : Login.Registration) :
    Registers setup w ((Login.register setup registration).after w) := by
  have hself : Registers setup w w := ⟨hw, fun _ _ h => h, rfl, rfl⟩
  obtain ⟨found, hr, -⟩ := runOn_findByIdentifier (Text.fold registration.email) hw.store
  have hon : (onStore (AccountStore.findByIdentifier (Text.fold registration.email))).runOn w = (found, w) :=
    runOn_onStore hr
  unfold Login.register Action.after
  dsimp only
  generalize Text.fold registration.email = email at hon ⊢
  cases found with
  | error e =>
    rw [Action.runOn_bind_of_error hon]
    exact hself
  | ok found =>
    rw [Action.runOn_bind_of_ok hon]
    cases found with
    | some a => exact hself
    | none =>
      have hid : (nextAccountId setup).runOn w =
          (.ok (setup.sources.accountIds w.idsTaken), { w with idsTaken := w.idsTaken + 1 }) := rfl
      have htook : Registers setup w { w with idsTaken := w.idsTaken + 1 } :=
        ⟨⟨hw.store, hw.sessions⟩, fun _ _ h => h, rfl, rfl⟩
      dsimp only
      rw [Action.runOn_bind_of_ok hid, Action.runOn_bind, Action.runOn_ofExcept]
      cases setup.hasher.hash setup.sources.salts registration.password with
      | error e => exact htook
      | ok passwordHash =>
        dsimp only
        generalize hnew : ({ id := setup.sources.accountIds w.idsTaken, email,
                             displayName := registration.displayName, phoneNumber := registration.phoneNumber,
                             orgUnitId := registration.orgUnitId, credentials := { passwordHash } } : Account) = a
        obtain ⟨result, t, hcreate, ht, hrec⟩ := runOn_create a hw.store
        have hadded : Registers setup w { w with idsTaken := w.idsTaken + 1, store := t } :=
          ⟨⟨ht, hw.sessions⟩, hrec, rfl, rfl⟩
        have hon : (onStore (AccountStore.create a)).runOn { w with idsTaken := w.idsTaken + 1 } =
            (result, { w with idsTaken := w.idsTaken + 1, store := t }) := runOn_onStore hcreate
        cases result with
        | error e =>
          rw [Action.runOn_bind_of_error hon]
          exact hadded
        | ok _ =>
          rw [Action.runOn_bind_of_ok hon]
          exact hadded.leave ((leaves_record ..).bind fun _ _ hu => hu)

/-- What an exchange of a refresh token does: other sessions stay, and at most one is opened, for the account of the
session that the token stood for. -/
structure Exchanges (setup : Setup) (token : String) (w v : World S) : Prop where
  order : v.InOrder setup
  store : v.store = w.store
  outbox : v.outbox = w.outbox
  kept : ∀ t s, t ≠ token → w.sessions.get? t = some s → v.sessions.get? t = some s
  opened : ∀ t s, v.sessions.get? t = some s → w.sessions.get? t = some s ∨
    t = setup.sources.tokens (w.tokensTaken + 1) ∧ w.sessions.get? t = none ∧
      ∃ s₀, w.sessions.get? token = some s₀ ∧ s.account = s₀.account

theorem Exchanges.leave {token : String} (h : Exchanges setup token w v) (hx : Leaves v x) :
    Exchanges setup token w x where
  order := h.order.leave hx
  store := hx.store.trans h.store
  outbox := hx.outbox.trans h.outbox
  kept t s ht hs := by
    rw [hx.sessions]
    exact h.kept t s ht hs
  opened t s hs := by
    rw [hx.sessions] at hs
    exact h.opened t s hs

theorem World.InOrder.closed (hw : w.InOrder setup) (token : String) : (w.closed token).InOrder setup where
  store := hw.store
  sessions t s hs := by
    rw [closed_sessions, Table.get?_erase] at hs
    split at hs
    · cases hs
    · exact hw.sessions t s hs

omit [AccountStore S] [RecordStore S] in
theorem get?_of_closed {token t : String} {s : Session} (h : (w.closed token).sessions.get? t = some s) :
    w.sessions.get? t = some s := by
  rw [closed_sessions, Table.get?_erase] at h
  split at h
  · cases h
  · exact h

omit [AccountStore S] [RecordStore S] in
theorem get?_closed_of_ne {token t : String} (h : t ≠ token) :
    (w.closed token).sessions.get? t = w.sessions.get? t := by
  rw [closed_sessions, Table.get?_erase, if_neg (Ne.symm h)]

theorem exchanges_refresh (hw : w.InOrder setup) (hinj : Function.Injective setup.sources.tokens) (token : String) :
    Exchanges setup token w ((TokenIssuer.refresh setup token).after w) := by
  have hself : Exchanges setup token w w := ⟨hw, rfl, rfl, fun _ _ _ h => h, fun _ _ => .inl⟩
  have hclosed : Exchanges setup token w (w.closed token) :=
    ⟨hw.closed token, rfl, rfl, fun _ _ ht => (get?_closed_of_ne ht).trans, fun _ _ hs => .inl (get?_of_closed hs)⟩
  unfold TokenIssuer.refresh
  split
  · exact hself
  · rw [Action.after, Action.runOn_bind_of_ok (TokenIssuer.runOn_close token)]
    cases hs₀ : w.sessions.get? token with
    | none => exact hclosed
    | some s₀ =>
      dsimp only
      rw [← Action.after, Action.after_bind]
      have hu := leaves_utcNow (w.closed token)
      generalize utcNow.after (w.closed token) = u at hu
      cases utcNow.outcome (w.closed token) with
      | error e => exact hclosed.leave hu
      | ok now =>
        dsimp only
        split
        · exact hclosed.leave hu
        · obtain ⟨x, hx, h | h | ⟨s, hs, h⟩⟩ := after_issueTokens setup s₀.account u
          · rw [h]
            exact (hclosed.leave hu).leave hx
          · rw [h]
            have hsame := (hclosed.leave hu).leave hx
            exact ⟨hsame.order.took, hsame.store, hsame.outbox, hsame.kept, hsame.opened⟩
          · rw [h]
            have hsame := (hclosed.leave hu).leave hx
            have hopened := Touches.opened hsame.order hinj (s := s) rfl
            have htaken : x.tokensTaken = w.tokensTaken := hx.tokensTaken.trans hu.tokensTaken
            have hnew := hw.get?_of_le hinj (Nat.le_succ w.tokensTaken)
            refine ⟨hopened.order, hsame.store, hsame.outbox, fun t s' ht hs' => ?_, fun t s' hs' => ?_⟩
            · have hne : setup.sources.tokens (x.tokensTaken + 1) ≠ t := by
                rintro rfl
                rw [htaken] at hs'
                cases hnew.symm.trans hs'
              rw [opened_sessions, Table.get?_put, if_neg hne, tookTokens_sessions]
              exact hsame.kept t s' ht hs'
            · rw [opened_sessions, Table.get?_put, tookTokens_sessions, htaken] at hs'
              split at hs'
              · next he =>
                cases hs'
                subst he
                exact .inr ⟨rfl, hnew, s₀, hs₀, hs⟩
              · exact hsame.opened t s' hs'

theorem exchanges_loginRefresh (hw : w.InOrder setup) (hinj : Function.Injective setup.sources.tokens) (token : String)
    (context : Option RequestContext) : Exchanges setup token w ((Login.refresh setup token context).after w) := by
  have h := exchanges_refresh hw hinj token
  unfold Login.refresh
  rw [Action.after_bind]
  cases (TokenIssuer.refresh setup token).outcome w with
  | error e => exact h
  | ok tokens => exact h.leave ((leaves_record ..).bind fun _ _ hu => hu)

omit [AccountStore S] [RecordStore S] in
/-- A logout closes the session of its token, and leaves everything else. -/
theorem leaves_logout (setup : Setup) (token : String) (context : Option RequestContext) (w : World S) :
    Leaves (w.closed token) ((Login.logout setup token context).after w) := by
  unfold Login.logout Action.after
  rw [Action.runOn_bind_of_ok (TokenIssuer.runOn_revoke token)]
  exact (leaves_record ..).bind fun _ _ hu => hu

end AccountSecurity
