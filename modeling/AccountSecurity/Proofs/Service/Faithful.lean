import AccountSecurity.Proofs.Run
import AccountSecurity.Proofs.Service.Login
import AccountSecurity.Proofs.Service.TotpFactor
import AccountSecurity.Proofs.Store.Faithful

/-!
# Services over a faithful store

A service that works on a faithful store ends as it does on a store in memory: with the same result, and in a state
that differs only in its store.

* `World.surroundings` : all of a state but its store;
* `Alongside` : two states that differ only in their stores, of which one goes with the other;
* `Agrees` : an operation ends over a store as it ends in memory. Operations are put together by `Agrees.bind`;
* `agrees_issue`, `agrees_login`, `agrees_register`, … : the services;
* `Yields`, `Agrees.yields`, `Agrees.yields_accounts` : how an operation ends, in terms of the accounts that the store stands for.
-/

namespace AccountSecurity
open World

/-! ## States that differ in their stores -/

/-- The state with another store. -/
@[simps] def World.over {S T : Type} (w : World S) (store : T) : World T :=
  { clock := w.clock, store, sessions := w.sessions, audit := w.audit, outbox := w.outbox, outage := w.outage
    drawn := w.drawn, tokensTaken := w.tokensTaken, idsTaken := w.idsTaken }

/-- All of a state but its store. -/
def World.surroundings {S : Type} (w : World S) : World Unit := w.over ()

variable {S : Type} [AccountStore S] [FaithfulStore S]

/-- A state, and one in memory that it goes with. Clocks show universal time. -/
structure Alongside (w : World S) (v : World MemoryStore) : Prop where
  store : FaithfulStore.Mirrors w.store v.store
  rest : w.surroundings = v.surroundings
  utc : v.clock.offset = 0

namespace Alongside
variable {w : World S} {v : World MemoryStore} (h : Alongside w v)
include h

theorem exact : v.store.Exact := FaithfulStore.exact_of_mirrors h.store

theorem sound : v.Sound := ⟨h.exact.linked, h.utc⟩

theorem clock : w.clock = v.clock := congrArg World.clock h.rest

theorem outage : w.outage = v.outage := congrArg World.outage h.rest

theorem drawn : w.drawn = v.drawn := congrArg World.drawn h.rest

theorem tokensTaken : w.tokensTaken = v.tokensTaken := congrArg World.tokensTaken h.rest

theorem idsTaken : w.idsTaken = v.idsTaken := congrArg World.idsTaken h.rest

end Alongside

/-! ## Operations -/

/-- An operation ends over a store as it ends in memory. -/
structure Agrees {α : Type} (x : Op S α) (y : Op MemoryStore α) (w : World S) (v : World MemoryStore) : Prop where
  result : (x.runOn w).1 = (y.runOn v).1
  after : Alongside (x.runOn w).2 (y.runOn v).2

section Agrees
variable {α β : Type} {w : World S} {v : World MemoryStore} (h : Alongside w v)

theorem Agrees.bind {x : Op S α} {y : Op MemoryStore α} {f : α → Op S β} {g : α → Op MemoryStore β}
    (hx : Agrees x y w v)
    (hf : ∀ a w' v', y.runOn v = (.ok a, v') → Alongside w' v' → Agrees (f a) (g a) w' v') :
    Agrees (x >>= f) (y >>= g) w v := by
  obtain ⟨hresult, hafter⟩ := hx
  rcases hw : x.runOn w with ⟨r, w'⟩
  rcases hv : y.runOn v with ⟨r', v'⟩
  rw [hw, hv] at hresult hafter
  obtain rfl : r = r' := hresult
  cases r with
  | error e =>
    have hx : (x >>= f).runOn w = (.error e, w') := Action.runOn_bind_of_error hw
    have hy : (y >>= g).runOn v = (.error e, v') := Action.runOn_bind_of_error hv
    refine ⟨?_, ?_⟩ <;> rw [hx, hy]
    exact hafter
  | ok a =>
    obtain ⟨hresult', hafter'⟩ := hf a w' v' hv hafter
    have hx : (x >>= f).runOn w = (f a).runOn w' := Action.runOn_bind_of_ok hw
    have hy : (y >>= g).runOn v = (g a).runOn v' := Action.runOn_bind_of_ok hv
    refine ⟨?_, ?_⟩ <;> rw [hx, hy]
    · exact hresult'
    · exact hafter'

/-- Reading the state. -/
theorem agrees_get {f : World S → Op S β} {g : World MemoryStore → Op MemoryStore β} (hf : Agrees (f w) (g v) w v) :
    Agrees (get >>= f) (get >>= g) w v := by
  have hx : (get >>= f : Op S β).runOn w = (f w).runOn w := Action.runOn_bind_of_ok (Action.runOn_get w)
  have hy : (get >>= g : Op MemoryStore β).runOn v = (g v).runOn v := Action.runOn_bind_of_ok (Action.runOn_get v)
  refine ⟨?_, ?_⟩ <;> rw [hx, hy]
  · exact hf.result
  · exact hf.after

include h

/-- What ends alike without a change of state. -/
theorem agrees_of_eq {x : Op S α} {y : Op MemoryStore α} {r : Except Failure α} (hx : x.runOn w = (r, w))
    (hy : y.runOn v = (r, v)) : Agrees x y w v :=
  ⟨by rw [hx, hy], by rw [hx, hy]; exact h⟩

theorem agrees_pure (a : α) : Agrees (pure a) (pure a) w v := agrees_of_eq h rfl rfl

theorem agrees_refuse (e : SecurityError) : Agrees (Action.refuse e : Op S α) (Action.refuse e) w v :=
  agrees_of_eq h rfl rfl

theorem agrees_fail (f : Fault) : Agrees (Action.fail f : Op S α) (Action.fail f) w v := agrees_of_eq h rfl rfl

theorem agrees_ofExcept (r : Except Failure α) : Agrees (Action.ofExcept r : Op S α) (Action.ofExcept r) w v :=
  agrees_of_eq h (Action.runOn_ofExcept r w) (Action.runOn_ofExcept r v)

theorem agrees_orFail (f : Fault) (o : Option α) : Agrees (Action.orFail f o : Op S α) (Action.orFail f o) w v := by
  cases o with
  | none => exact agrees_fail h f
  | some a => exact agrees_pure h a

/-- A change that leaves store and clock alone. -/
theorem agrees_modify {f : World S → World S} {g : World MemoryStore → World MemoryStore}
    (hf : (f w).store = w.store) (hg : (g v).store = v.store) (hclock : (g v).clock = v.clock)
    (hrest : (f w).surroundings = (g v).surroundings) : Agrees (modify f) (modify g) w v := by
  refine ⟨rfl, ?_, hrest, ?_⟩
  · show FaithfulStore.Mirrors (f w).store (g v).store
    rw [hf, hg]
    exact h.store
  · show (g v).clock.offset = 0
    rw [hclock]
    exact h.utc

/-! ### Time, sources and log -/

theorem agrees_utcNow : Agrees (utcNow : Op S DateTime) utcNow w v := by
  refine agrees_get ?_
  rw [h.clock]
  exact agrees_orFail h ..

theorem agrees_minutesFromNow (minutes : Int) :
    Agrees (minutesFromNow minutes : Op S DateTime) (minutesFromNow minutes) w v :=
  (agrees_utcNow h).bind fun _ _ _ _ h => agrees_orFail h ..

theorem agrees_draw (setup : Setup) : Agrees (draw setup : Op S Nat) (draw setup) w v := by
  refine agrees_get ?_
  dsimp only
  rw [h.drawn]
  refine (agrees_modify h rfl rfl rfl ?_).bind fun _ _ _ _ h => agrees_pure h _
  exact congrArg (fun u : World Unit => { u with drawn := v.drawn + 1 }) h.rest

theorem agrees_drawMany (setup : Setup) (count : Nat) :
    Agrees (drawMany setup count : Op S (List Nat)) (drawMany setup count) w v := by
  induction count generalizing w v with
  | zero => exact agrees_pure h []
  | succ count ih =>
    refine (agrees_draw h setup).bind fun n _ _ _ h₁ => ?_
    exact (ih h₁).bind fun ns _ _ _ h₂ => agrees_pure h₂ (n :: ns)

theorem agrees_nextToken (setup : Setup) : Agrees (nextToken setup : Op S String) (nextToken setup) w v := by
  refine agrees_get ?_
  dsimp only
  rw [h.tokensTaken]
  refine (agrees_modify h rfl rfl rfl ?_).bind fun _ _ _ _ h => agrees_pure h _
  exact congrArg (fun u : World Unit => { u with tokensTaken := v.tokensTaken + 1 }) h.rest

theorem agrees_nextAccountId (setup : Setup) : Agrees (nextAccountId setup : Op S String) (nextAccountId setup) w v := by
  refine agrees_get ?_
  dsimp only
  rw [h.idsTaken]
  refine (agrees_modify h rfl rfl rfl ?_).bind fun _ _ _ _ h => agrees_pure h _
  exact congrArg (fun u : World Unit => { u with idsTaken := v.idsTaken + 1 }) h.rest

theorem agrees_record (setup : Setup) (t : EventType) (p : Option String) (c : Option RequestContext)
    (e : Option SecurityError) (m : List (String × Json)) :
    Agrees (record setup t p c e m : Op S Unit) (record setup t p c e m) w v := by
  unfold record
  split
  · refine (agrees_utcNow h).bind fun now _ _ _ h => agrees_modify h rfl rfl rfl ?_
    exact congrArg (fun u : World Unit => { u with audit := u.audit.record (Event.of now t p c
      (e.map fun error : SecurityError => error.errorClass.name) (.object m)) }) h.rest
  · exact agrees_pure h _

theorem agrees_send (setup : Setup) (message : TextMessage) :
    Agrees (send setup message : Op S Unit) (send setup message) w v := by
  refine agrees_get ?_
  rw [h.outage]
  cases v.outage with
  | some outage => exact agrees_refuse h _
  | none =>
    refine agrees_modify h rfl rfl rfl ?_
    exact congrArg (fun u : World Unit => { u with outbox := u.outbox ++ [message] }) h.rest

theorem agrees_issueTokens (setup : Setup) (account : AccountView) :
    Agrees (TokenIssuer.issue setup account : Op S TokenSet) (TokenIssuer.issue setup account) w v := by
  refine (agrees_utcNow h).bind fun now _ _ _ h => ?_
  refine (agrees_nextToken h setup).bind fun accessToken _ _ _ h => ?_
  refine (agrees_nextToken h setup).bind fun refreshToken _ _ _ h => ?_
  refine (agrees_orFail h ..).bind fun accessExpiresAt _ _ _ h => ?_
  refine (agrees_orFail h ..).bind fun refreshExpiresAt _ _ _ h => ?_
  refine (agrees_modify h rfl rfl rfl ?_).bind fun _ _ _ _ h => agrees_pure h _
  have hnext (session : Session) := congrArg (World.opened refreshToken session) h.rest
  exact hnext { account, accessToken, accessExpiresAt, refreshExpiresAt }

/-! ### Accounts -/

/-- A call of the store that succeeds in memory. -/
theorem agrees_onStore {x : Action S α} {y : Action MemoryStore α} {a : α} {t : MemoryStore}
    (hy : y.runOn v.store = (.ok a, t)) (hx : ∃ u, x.runOn w.store = (.ok a, u) ∧ FaithfulStore.Mirrors u t) :
    Agrees (onStore x) (onStore y) w v := by
  obtain ⟨u, hx, hm⟩ := hx
  have hw : (onStore x).runOn w = (.ok a, w.over u) := by
    rw [onStore, Action.runOn_within, hx]
    rfl
  have hv : (onStore y).runOn v = (.ok a, v.over t) := by
    rw [onStore, Action.runOn_within, hy]
    rfl
  refine ⟨by rw [hw, hv], ?_⟩
  rw [hw, hv]
  exact ⟨hm, h.rest, h.utc⟩

theorem agrees_find (identifier : String) : Agrees (onStore (AccountStore.findByIdentifier identifier) : Op S _)
    (onStore (AccountStore.findByIdentifier identifier)) w v :=
  agrees_onStore h (h.exact.linked.runOn_findByIdentifier identifier)
    (FaithfulStore.runOn_findByIdentifier h.store identifier)

theorem agrees_requireAccount (id : String) : Agrees (requireAccount id : Op S Account) (requireAccount id) w v := by
  have hfind : Agrees (onStore (AccountStore.findById id) : Op S _) (onStore (AccountStore.findById id)) w v :=
    agrees_onStore h (y := MemoryStore.findById id) rfl (FaithfulStore.runOn_findById h.store id)
  refine hfind.bind fun found _ _ _ h => ?_
  cases found with
  | some a => exact agrees_pure h a
  | none => exact agrees_refuse h _

/-- An update of an account that is there. -/
theorem agrees_changeCredentials {id : String} {a : Account} {changes : List CredentialChange}
    (ha : v.account? id = some a) (hs : Storable (LawfulStore.Keeps MemoryStore) changes) (hkept : ∀ c ∈ changes, c.Kept) :
    Agrees (changeCredentials id changes : Op S Unit) (changeCredentials id changes) w v := by
  obtain ⟨t, hr, -, -⟩ := LawfulStore.runOn_updateCredentials h.sound.store ha hs
  exact agrees_onStore h hr (FaithfulStore.runOn_updateCredentials h.store hs.1 hkept hr)

/-- A count of an account that is there, for which there is room. -/
theorem agrees_count {id : String} {a : Account} (ha : v.account? id = some a)
    (hg : a.credentials.gaps.loginAttempts = false)
    (hroom : FaithfulStore.Counts S (a.credentials.loginAttempts + 1)) :
    Agrees (onStore (AccountStore.incrementAttempts id) : Op S Int) (onStore (AccountStore.incrementAttempts id)) w v := by
  have hr := MemoryStore.runOn_incrementAttempts id v.store
  rw [show v.store.accounts.get? id = some a from ha] at hr
  dsimp only at hr
  rw [hg, if_neg (by simp)] at hr
  exact agrees_onStore h hr (FaithfulStore.runOn_incrementAttempts h.store hroom hr)

end Agrees

/-! ## What the parts of a service tell when they succeed -/

/-- In memory, the account that is found under an address is the one that has it. -/
theorem find?_iff_of_exact {v : World MemoryStore} (h : v.store.Exact) {identifier : String} {a : Account} :
    v.find? identifier = some a ↔ v.account? a.id = some a ∧ a.email = Text.fold identifier := by
  have hfind : v.find? identifier = (v.store.emailIndex.get? (Text.fold identifier)).bind v.store.accounts.get? := by
    have hr : (AccountStore.findByIdentifier identifier).runOn v.store = _ :=
      h.linked.runOn_findByIdentifier identifier
    unfold find? Action.outcome
    rw [hr]
    rfl
  rw [hfind]
  exact h.findByIdentifier_iff identifier

/-- In memory, nothing is found under an address that no account has. -/
theorem find?_eq_none_of_exact {v : World MemoryStore} (h : v.store.Exact) {identifier : String}
    (hfree : ∀ a, v.account? a.id = some a → a.email ≠ Text.fold identifier) : v.find? identifier = none := by
  cases hf : v.find? identifier with
  | none => rfl
  | some a =>
    obtain ⟨ha, he⟩ := (find?_iff_of_exact h).1 hf
    exact absurd he (hfree a ha)

section Success
variable {v v' : World MemoryStore} (h : v.Sound)
include h

theorem of_runOn_requireAccount {id : String} {a : Account} (hr : (requireAccount id).runOn v = (.ok a, v')) :
    v.account? id = some a ∧ v' = v := by
  rw [runOn_requireAccount h] at hr
  cases ha : v.account? id with
  | none =>
    rw [ha] at hr
    cases hr
  | some b =>
    rw [ha] at hr
    cases hr
    exact ⟨rfl, rfl⟩

theorem of_runOn_minutesFromNow {minutes : Int} {t : DateTime} (hr : (minutesFromNow minutes).runOn v = (.ok t, v')) :
    t.offset = 0 ∧ v' = v := by
  rw [runOn_minutesFromNow h] at hr
  cases ht : v.clock.addMinutes? minutes with
  | none =>
    rw [ht] at hr
    cases hr
  | some u =>
    rw [ht] at hr
    cases hr
    exact ⟨(DateTime.offset_of_addMinutes ht).trans h.clock, rfl⟩

end Success

/-! ## Services -/

theorem kept_loginAcceptance {now : DateTime} (hutc : now.offset = 0) (c : Credentials) (newHash : Option String) :
    ∀ change ∈ Login.acceptance now c newHash, change.Kept := by
  unfold Login.acceptance
  cases newHash <;> split <;> simp [CredentialChange.Kept, DateTime.IsUtc, hutc, fitsColumn, columnBound]

section Services
variable {w : World S} {v : World MemoryStore} (h : Alongside w v) (setup : Setup)
include h

theorem agrees_drawCode (config : OtpConfig) :
    Agrees (OtpChallenge.drawCode setup config : Op S String) (OtpChallenge.drawCode setup config) w v := by
  refine (agrees_draw h setup).bind fun n _ _ _ h => ?_
  cases drawnCode config.codeLength n with
  | ok code => exact agrees_pure h code
  | error f => exact agrees_fail h f

omit h in
theorem after_drawCode (config : OtpConfig) : ((OtpChallenge.drawCode setup config).runOn v).2 = v.drew 1 := by
  rw [OtpChallenge.runOn_drawCode_eq]

theorem agrees_issue (config : OtpConfig) (id : String) (purpose : OtpPurpose) (number : Option String) :
    Agrees (OtpChallenge.issue setup config id purpose number : Op S Unit)
      (OtpChallenge.issue setup config id purpose number) w v := by
  refine (agrees_requireAccount h id).bind fun a _ _ hfound h₁ => ?_
  obtain ⟨ha, rfl⟩ := of_runOn_requireAccount h.sound hfound
  cases (OtpChallenge.nonempty? number).or (OtpChallenge.nonempty? a.phoneNumber) with
  | none => exact agrees_refuse h₁ _
  | some destination =>
    refine (agrees_drawCode h₁ setup config).bind fun code _ _ hcode h₂ => ?_
    obtain rfl := (congrArg Prod.snd hcode).symm.trans (after_drawCode setup config)
    refine (agrees_minutesFromNow h₂ _).bind fun expiresAt _ _ ht h₃ => ?_
    obtain ⟨hutc, rfl⟩ := of_runOn_minutesFromNow h₂.sound ht
    have hkept : ∀ c ∈ OtpChallenge.pending code expiresAt purpose, c.Kept := by
      simpa [OtpChallenge.pending, CredentialChange.Kept, DateTime.IsUtc] using hutc
    refine (agrees_changeCredentials h₃ ha (OtpChallenge.storable_pending hutc) hkept).bind fun _ _ _ _ h₄ => ?_
    exact (agrees_send h₄ setup _).bind fun _ _ _ _ h₅ => agrees_record h₅ ..

/-! ### Login -/

open Login

theorem agrees_loginRefuse {α : Type} (t : EventType) (p : Option String) (c : Option RequestContext)
    (e : SecurityError) (m : List (String × Json)) :
    Agrees (refuse setup t p c e m : Op S α) (refuse setup t p c e m) w v :=
  (agrees_record h ..).bind fun _ _ _ _ h => agrees_refuse h e

theorem agrees_complete (a : Account) (c : Option RequestContext) :
    Agrees (complete setup a c : Op S _) (complete setup a c) w v := by
  refine (agrees_issueTokens h setup a.view).bind fun tokens _ _ _ h₁ => ?_
  exact (agrees_record h₁ ..).bind fun _ _ _ _ h₂ => agrees_pure h₂ _

theorem agrees_countFailure {α : Type} {a : Account} (ha : v.account? a.id = some a)
    (hg : a.credentials.gaps.loginAttempts = false)
    (hroom : FaithfulStore.Counts S (a.credentials.loginAttempts + 1)) (c : Option RequestContext) :
    Agrees (countFailure setup a c : Op S α) (countFailure setup a c) w v := by
  refine (agrees_count h ha hg hroom).bind fun n _ _ hn h₁ => ?_
  obtain ⟨k, hr, -, hcounted, -⟩ := runOn_count h.sound ha hg
  cases hr.symm.trans hn
  have ha' : (v.counted a.id).account? a.id = some (a.counted n) := by rw [hcounted, Function.update_self]
  dsimp only
  split
  · refine (agrees_minutesFromNow h₁ _).bind fun t _ _ ht h₂ => ?_
    obtain ⟨hutc, rfl⟩ := of_runOn_minutesFromNow h₁.sound ht
    have hkept : ∀ change ∈ [CredentialChange.lockedUntil (some t)], change.Kept := by
      simpa [CredentialChange.Kept, DateTime.IsUtc] using hutc
    exact (agrees_changeCredentials h₂ ha' (storable_lock hutc) hkept).bind fun _ _ _ _ h₃ =>
      agrees_loginRefuse h₃ ..
  · exact agrees_loginRefuse h₁ ..

theorem agrees_proceed (a : Account) (c : Option RequestContext) :
    Agrees (proceed setup a c : Op S _) (proceed setup a c) w v := by
  unfold proceed
  dsimp only
  split
  · exact agrees_loginRefuse h ..
  split
  · cases OtpChallenge.nonempty? a.phoneNumber with
    | none => exact agrees_refuse h _
    | some number => exact (agrees_issue h ..).bind fun _ _ _ _ h₁ => agrees_pure h₁ _
  · exact (agrees_complete h ..).bind fun _ _ _ _ h₁ => agrees_pure h₁ _

/-- A login over a faithful store, with room for another wrong password. -/
theorem agrees_login (identifier password : String) (c : Option RequestContext)
    (hcount : ∀ a, v.find? identifier = some a → a.credentials.gaps.loginAttempts = false ∧
      FaithfulStore.Counts S (a.credentials.loginAttempts + 1)) :
    Agrees (login setup identifier password c : Op S _) (login setup identifier password c) w v := by
  refine (agrees_find h identifier).bind fun found _ _ hfound h₁ => ?_
  cases (runOn_find h.sound identifier).symm.trans hfound
  cases hf : v.find? identifier with
  | none => exact agrees_loginRefuse h₁ ..
  | some a =>
    obtain ⟨hg, hroom⟩ := hcount a hf
    have ha := account?_of_find? h.sound hf
    refine (agrees_utcNow h₁).bind fun now _ _ hnow h₂ => ?_
    cases (runOn_utcNow h.sound).symm.trans hnow
    dsimp only
    split
    · exact agrees_loginRefuse h₂ ..
    refine (agrees_ofExcept h₂ _).bind fun right _ _ hright h₃ => ?_
    obtain rfl := (Prod.mk.inj ((Action.runOn_ofExcept ..).symm.trans hright)).2
    cases right with
    | false => exact agrees_countFailure h₃ setup ha hg hroom c
    | true =>
      rw [if_pos rfl, hg, if_neg (by simp)]
      refine (agrees_ofExcept h₃ _).bind fun newHash _ _ hhash h₄ => ?_
      obtain rfl := (Prod.mk.inj ((Action.runOn_ofExcept ..).symm.trans hhash)).2
      exact (agrees_changeCredentials h₄ ha (storable_loginAcceptance h.utc a.credentials newHash)
        (kept_loginAcceptance h.utc a.credentials newHash)).bind fun _ _ _ _ h₅ => agrees_proceed h₅ setup a c

/-- A registration over a faithful store: a new account needs a name, and an identifier that no account has. -/
theorem agrees_register (r : Registration)
    (hnew : v.find? (Text.fold r.email) = none →
      r.displayName.isSome ∧ v.account? (setup.sources.accountIds v.idsTaken) = none) :
    Agrees (register setup r : Op S _) (register setup r) w v := by
  refine (agrees_find h _).bind fun found _ _ hfound h₁ => ?_
  cases (runOn_find h.sound _).symm.trans hfound
  cases hf : v.find? (Text.fold r.email) with
  | some a => exact agrees_refuse h₁ _
  | none =>
    obtain ⟨hname, hid⟩ := hnew hf
    refine (agrees_nextAccountId h₁ setup).bind fun id _ _ hnext h₂ => ?_
    cases hnext
    refine (agrees_ofExcept h₂ _).bind fun passwordHash _ _ hhash h₃ => ?_
    obtain rfl := (Prod.mk.inj ((Action.runOn_ofExcept ..).symm.trans hhash)).2
    have hemail : ∀ b, v.store.accounts.get? b.id = some b → b.email ≠ Text.fold (Text.fold r.email) := by
      intro b hb he
      rw [(find?_iff_of_exact h.exact).2 ⟨hb, he⟩] at hf
      cases hf
    have hcreate := h.exact.runOn_create_of_new (a := newAccount setup r passwordHash v) hid hemail
    have hfits : fitsColumn 0 = true := by decide
    have hkept : Credentials.Kept { passwordHash } := ⟨rfl, hfits, by simp, by simp, by simp, by simp⟩
    refine (agrees_onStore h₃ hcreate (FaithfulStore.runOn_create h₃.store hname hkept hcreate)).bind
      fun _ _ _ _ h₄ => ?_
    exact (agrees_record h₄ ..).bind fun _ _ _ _ h₅ => agrees_pure h₅ _

/-! ### Authenticator apps -/

open TotpFactor

theorem agrees_generate (id : String) :
    Agrees (generate setup id : Op S Enrollment) (generate setup id) w v := by
  refine (agrees_requireAccount h id).bind fun a _ _ hfound h₁ => ?_
  obtain ⟨ha, rfl⟩ := of_runOn_requireAccount h.sound hfound
  refine (agrees_drawMany h₁ setup _).bind fun draws _ _ hdraws h₂ => ?_
  obtain rfl := (Prod.mk.inj ((runOn_drawMany ..).symm.trans hdraws)).2
  refine (agrees_ofExcept h₂ _).bind fun _ _ _ hallowed h₃ => ?_
  obtain rfl := (Prod.mk.inj ((Action.runOn_ofExcept ..).symm.trans hallowed)).2
  have hkept : ∀ c ∈ [CredentialChange.totpSecret (some (Totp.secretOf draws))], c.Kept := by
    simp [CredentialChange.Kept]
  exact (agrees_changeCredentials h₃ ha (storable_totpSecret _) hkept).bind fun _ _ _ _ h₄ => agrees_pure h₄ _

theorem agrees_check (secret submitted : String) :
    Agrees (check setup secret submitted : Op S Bool) (check setup secret submitted) w v := by
  refine agrees_get ?_
  rw [h.clock]
  exact agrees_ofExcept h _

theorem agrees_enable (id submitted : String) :
    Agrees (enable setup id submitted : Op S Bool) (enable setup id submitted) w v := by
  refine (agrees_requireAccount h id).bind fun a _ _ hfound h₁ => ?_
  obtain ⟨ha, rfl⟩ := of_runOn_requireAccount h.sound hfound
  cases usableSecret? a.credentials with
  | none => exact agrees_refuse h₁ _
  | some secret =>
    refine (agrees_check h₁ setup secret submitted).bind fun right _ _ hright h₂ => ?_
    obtain rfl := (Prod.mk.inj ((runOn_check ..).symm.trans hright)).2
    cases right with
    | false => exact (agrees_record h₂ ..).bind fun _ _ _ _ h₃ => agrees_refuse h₃ _
    | true =>
      have hkept : ∀ c ∈ [CredentialChange.totpEnabled true], c.Kept := by simp [CredentialChange.Kept]
      refine (agrees_changeCredentials h₂ ha (storable_totpEnabled true) hkept).bind fun _ _ _ _ h₃ => ?_
      exact (agrees_record h₃ ..).bind fun _ _ _ _ h₄ => agrees_pure h₄ _

theorem agrees_disable (id submitted : String) :
    Agrees (disable setup id submitted : Op S Bool) (disable setup id submitted) w v := by
  refine (agrees_requireAccount h id).bind fun a _ _ hfound h₁ => ?_
  obtain ⟨ha, rfl⟩ := of_runOn_requireAccount h.sound hfound
  split
  · exact agrees_refuse h₁ _
  cases usableSecret? a.credentials with
  | none => exact agrees_refuse h₁ _
  | some secret =>
    refine (agrees_check h₁ setup secret submitted).bind fun right _ _ hright h₂ => ?_
    obtain rfl := (Prod.mk.inj ((runOn_check ..).symm.trans hright)).2
    cases right with
    | false => exact (agrees_record h₂ ..).bind fun _ _ _ _ h₃ => agrees_refuse h₃ _
    | true =>
      have hkept : ∀ c ∈ [CredentialChange.totpEnabled false, .totpSecret none], c.Kept := by
        simp [CredentialChange.Kept]
      refine (agrees_changeCredentials h₂ ha storable_removal hkept).bind fun _ _ _ _ h₃ => ?_
      exact (agrees_record h₃ ..).bind fun _ _ _ _ h₄ => agrees_pure h₄ _

theorem agrees_validate (id submitted : String) :
    Agrees (validate setup id submitted : Op S Bool) (validate setup id submitted) w v := by
  refine (agrees_requireAccount h id).bind fun a _ _ _ h₁ => ?_
  split
  · exact agrees_pure h₁ _
  cases usableSecret? a.credentials with
  | none => exact agrees_refuse h₁ _
  | some secret =>
    refine (agrees_check h₁ setup secret submitted).bind fun right _ _ _ h₂ => ?_
    cases right with
    | false => exact (agrees_record h₂ ..).bind fun _ _ _ _ h₃ => agrees_pure h₃ _
    | true => exact (agrees_record h₂ ..).bind fun _ _ _ _ h₃ => agrees_pure h₃ _

end Services

/-! ## How an operation ends -/

/-- An operation has given a result. The store stands for these accounts, and the rest of the state is this one. -/
structure Yields {α : Type} (ended : Except Failure α × World S) (result : Except Failure α)
    (accounts : String → Option Account) (rest : World Unit) : Prop where
  result : ended.1 = result
  accounts : Holds ended.2.store accounts
  rest : ended.2.surroundings = rest

/-- What an operation does in memory, it does over the store. -/
theorem Agrees.yields {α : Type} {x : Op S α} {y : Op MemoryStore α} {w : World S} {v v' : World MemoryStore}
    {r : Except Failure α} (h : Agrees x y w v) (hr : y.runOn v = (r, v')) :
    Yields (x.runOn w) r v'.account? v'.surroundings := by
  obtain ⟨hresult, hafter⟩ := h
  rw [hr] at hresult hafter
  exact ⟨hresult, ⟨v'.store, hafter.store, rfl⟩, hafter.rest⟩

/-- The same, where the accounts afterwards are known. -/
theorem Agrees.yields_accounts {α : Type} {x : Op S α} {y : Op MemoryStore α} {w : World S} {v v' : World MemoryStore}
    {r : Except Failure α} (h : Agrees x y w v) (hr : y.runOn v = (r, v')) {accounts : String → Option Account}
    (haccounts : v'.account? = accounts) : Yields (x.runOn w) r accounts v'.surroundings := haccounts ▸ h.yields hr

/-- Every state over a store that stands for accounts goes with one in memory that has those accounts. -/
theorem Holds.exists_alongside {w : World S} {accounts : String → Option Account} (h : Holds w.store accounts)
    (hclock : w.clock.offset = 0) : ∃ v, Alongside w v ∧ v.account? = accounts := by
  obtain ⟨m, hm, rfl⟩ := h
  exact ⟨w.over m, ⟨hm, rfl, hclock⟩, rfl⟩

/-! ## The sample -/

/-- A store of one account with a folded address. -/
theorem MemoryStore.exact_single {a : Account} (hfold : ∃ text, a.email = Text.fold text) : (empty.added a).Exact :=
  exact_empty.added rfl rfl hfold

theorem World.exact_sample : World.sample.store.Exact :=
  MemoryStore.exact_single (a := .sample) ⟨"user@example.org", by decide +kernel⟩

theorem World.holds_sample : Holds World.sample.store World.sample.account? := holds_of_exact World.exact_sample

end AccountSecurity
