import AccountSecurity.Proofs.Service.Writes

/-!
# What a call does

* `run_login`, `run_finishLogin`, … : a call in terms of its service, where the call does more than that;
* `follows_run` : **every call** leaves a sound state at the same time, and accounts that its writes explain;
* `sessions_run`, `outbox_run` : the calls that leave the sessions alone, and those that send no message.
-/

namespace AccountSecurity.Operation
open World
variable {S : Type} [AccountStore S] [LawfulStore S] {w : World S} (setup : Setup)

/-! ## Calls in terms of their services -/

/-- Turning a value into a reply keeps failures as they are. -/
theorem map_eq_error {α β : Type} {f : α → β} {x : Except Failure α} {e : Failure} :
    x.map f = .error e ↔ x = .error e := by cases x <;> simp [Except.map]

theorem map_flag_eq_ok {x : Except Failure Bool} {b : Bool} : x.map Reply.flag = .ok (.flag b) ↔ x = .ok b := by
  cases x <;> simp [Except.map]

theorem map_map {α β γ : Type} (f : α → β) (g : β → γ) (x : Except Failure α) :
    (x.map f).map g = x.map fun a => g (f a) := by cases x <;> rfl

omit [AccountStore S] [LawfulStore S] in
theorem runOn_bind_pure {α : Type} (f : α → Reply) (x : Op S α) (w : World S) :
    (do let a ← x; return f a).runOn w = ((x.runOn w).1.map f, (x.runOn w).2) := by
  rw [bind_pure_comp, Action.runOn_map]

/-- The time of the context of a request is no part of what a call does. -/
theorem runOn_noted (h : w.Sound) {α : Type} (c : Option RequestContext) (f : α → Reply) (x : Op S α) :
    (noteContext c *> f <$> x).runOn w = ((x.runOn w).1.map f, (x.runOn w).2) := by
  rw [seqRight_eq_bind, Action.runOn_bind_of_ok (runOn_noteContext h c), Action.runOn_map]

theorem run_login (h : w.Sound) (identifier password : String) (c : Option RequestContext) :
    (login identifier password c).run setup w =
      (((Login.login setup identifier password c).runOn w).1.map Login.Outcome.reply,
        ((Login.login setup identifier password c).runOn w).2) := runOn_noted h ..

theorem run_finishLogin (h : w.Sound) (id code : String) (c : Option RequestContext) :
    (finishLogin id code c).run setup w =
      (((Login.finish setup id code c).runOn w).1.map fun r => .loggedIn r.1 r.2,
        ((Login.finish setup id code c).runOn w).2) := by
  refine (Action.runOn_bind_of_ok (runOn_noteContext h c)).trans ?_
  exact runOn_bind_pure (fun r : TokenSet × AccountView => .loggedIn r.1 r.2) (Login.finish setup id code c) w

/-- What the second step of a login does to the accounts, but for the time of the login, is done by the check. -/
theorem part?_finishLogin {β : Type} {F : Account → β} (h : w.Sound)
    (hF : ∀ (a : Account) t, F (a.changed [.lastLogin t]) = F a) (id code : String) (c : Option RequestContext) :
    ((finishLogin id code c).run setup w).2.part? F =
      ((OtpChallenge.verify setup id code .loginChallenge).runOn w).2.part? F := by
  rw [run_finishLogin setup h, Login.runOn_finish h]
  rcases hr : (OtpChallenge.verify setup id code .loginChallenge).runOn w with ⟨f | a, v⟩
  · rfl
  · obtain ⟨hv, hb, -⟩ := OtpChallenge.account?_of_verify_ok h hr
    have hs : Storable (LawfulStore.Keeps S) _ := Login.storable_lastLogin h.clock
    refine Eq.trans ?_ (part?_of_update_same hb (account?_changed hv hb hs) (hF ..))
    dsimp only
    rw [Login.runOn_complete (hv.changed hb hs)]
    split <;> rfl

theorem run_refresh (h : w.Sound) (token : String) (c : Option RequestContext) :
    (refresh token c).run setup w =
      (((Login.refresh setup token c).runOn w).1.map .tokens, ((Login.refresh setup token c).runOn w).2) :=
  runOn_noted h ..

theorem run_logout (h : w.Sound) (token : String) (c : Option RequestContext) :
    (logout token c).run setup w =
      (((Login.logout setup token c).runOn w).1.map .flag, ((Login.logout setup token c).runOn w).2) :=
  runOn_noted h ..

omit [LawfulStore S] in
theorem run_issueOtp (id : String) (purpose : OtpPurpose) (number : Option String) :
    (issueOtp id purpose number).run setup w =
      (((OtpChallenge.issue setup setup.otp id purpose number).runOn w).1.map fun _ => .done,
        ((OtpChallenge.issue setup setup.otp id purpose number).runOn w).2) := runOn_bind_pure (fun _ => .done) _ w

omit [LawfulStore S] in
theorem run_verifyOtp (id code : String) (purpose : OtpPurpose) :
    (verifyOtp id code purpose).run setup w =
      (((OtpChallenge.verify setup id code purpose).runOn w).1.map .account,
        ((OtpChallenge.verify setup id code purpose).runOn w).2) := Action.runOn_map ..

omit [LawfulStore S] in
theorem run_clearOtp (id : String) :
    (clearOtp id).run setup w =
      (((OtpChallenge.clear id).runOn w).1.map fun _ => .done, ((OtpChallenge.clear id).runOn w).2) :=
  runOn_bind_pure (fun _ => .done) _ w

omit [LawfulStore S] in
theorem run_initiatePhone (id number : String) :
    (initiatePhone id number).run setup w =
      (((SmsFactor.initiate setup id number).runOn w).1.map fun _ => .done,
        ((SmsFactor.initiate setup id number).runOn w).2) := runOn_bind_pure (fun _ => .done) _ w

omit [LawfulStore S] in
theorem run_verifyPhone (id code : String) :
    (verifyPhone id code).run setup w =
      (((OtpChallenge.verify setup id code .phoneVerification).runOn w).1.map fun _ => .flag true,
        ((OtpChallenge.verify setup id code .phoneVerification).runOn w).2) := by
  refine (Action.runOn_map ..).trans ?_
  rw [SmsFactor.runOn_verifyPhone]
  cases ((OtpChallenge.verify setup id code .phoneVerification).runOn w).1 <;> rfl

omit [LawfulStore S] in
theorem run_generateBackup (id : String) :
    (generateBackup id).run setup w =
      (((BackupVault.generate setup id).runOn w).1.map .backupCode, ((BackupVault.generate setup id).runOn w).2) :=
  Action.runOn_map ..

omit [LawfulStore S] in
theorem run_verifyBackup (id code : String) :
    (verifyBackup id code).run setup w =
      (((BackupVault.verify setup id code).runOn w).1.map .flag, ((BackupVault.verify setup id code).runOn w).2) :=
  Action.runOn_map ..

omit [LawfulStore S] in
theorem run_remainingBackup (id : String) :
    (remainingBackup id).run setup w =
      (((BackupVault.remaining id).runOn w).1.map .count, ((BackupVault.remaining id).runOn w).2) :=
  Action.runOn_map ..

omit [LawfulStore S] in
theorem run_generateTotp (id : String) :
    (generateTotp id).run setup w =
      (((TotpFactor.generate setup id).runOn w).1.map .enrollment, ((TotpFactor.generate setup id).runOn w).2) :=
  Action.runOn_map ..

omit [LawfulStore S] in
theorem run_enableTotp (id code : String) :
    (enableTotp id code).run setup w =
      (((TotpFactor.enable setup id code).runOn w).1.map .flag, ((TotpFactor.enable setup id code).runOn w).2) :=
  Action.runOn_map ..

omit [LawfulStore S] in
theorem run_disableTotp (id code : String) :
    (disableTotp id code).run setup w =
      (((TotpFactor.disable setup id code).runOn w).1.map .flag, ((TotpFactor.disable setup id code).runOn w).2) :=
  Action.runOn_map ..

/-! ## The writes of each call -/

variable {setup}

theorem follows_login (h : w.Sound) (identifier password : String) (c : Option RequestContext) :
    Follows setup (login identifier password c) w ((Login.login setup identifier password c).runOn w).2 := by
  have hf : Follows setup (login identifier password c) w w := .refl h
  have hends := Login.ends_login setup h identifier password c
  generalize (Login.login setup identifier password c).runOn w = r at hends ⊢
  -- what a right password writes, before anything that follows
  have hadmitted : ∀ a newHash, Login.Admitted setup identifier password w a newHash →
      Follows setup (login identifier password c) w (Login.admitted a newHash w) := fun a newHash hc =>
    hf.changed (hc.account? h) (Login.storable_loginAcceptance h.clock a.credentials newHash) (.accepted newHash)
  cases hends with
  | unknown hw => exact hf.logged ..
  | locked hw hl => exact hf.logged ..
  | broken hw hl hx => exact hf
  | @rejected a n hc hm =>
    exact (hf.put hc.sound rfl rfl (hc.account? h) hc.account (.rejected n hm)).logged ..
  | @lockedOut a n t hc hm ht =>
    obtain ⟨hs, hacc⟩ := hc.account?_lockedOut ((DateTime.offset_of_addMinutes ht).trans h.clock)
    exact (hf.put hs rfl rfl (hc.account? h) hacc (.locked n t ht)).logged ..
  | @endless a n hc hm ht => exact hf.put hc.sound rfl rfl (hc.account? h) hc.account (.unlockable n ht)
  | unverified hc he => exact (hadmitted _ _ hc).logged ..
  | numberless hc he hs hn => exact hadmitted _ _ hc
  | challenged hc he hs hn => exact (hadmitted _ _ hc).issue _ _ _ _ fun _ code t => .challenged code t
  | @opened a newHash hc he hs => exact (hadmitted _ _ hc).complete a c

theorem follows_finish (h : w.Sound) (id code : String) (c : Option RequestContext) :
    Follows setup (finishLogin id code c) w ((Login.finish setup id code c).runOn w).2 := by
  have hf : Follows setup (finishLogin id code c) w _ := (Follows.refl h).verify id code .loginChallenge rfl
  rw [Login.runOn_finish h]
  rcases hr : (OtpChallenge.verify setup id code .loginChallenge).runOn w with ⟨f | a, v⟩
  · rw [hr] at hf
    exact hf
  · rw [hr] at hf
    obtain ⟨-, hb, -⟩ := OtpChallenge.account?_of_verify_ok h hr
    exact (Follows.changed hf hb (Login.storable_lastLogin h.clock) .finished).complete a c

theorem follows_refresh (h : w.Sound) (op : Operation) (token : String) :
    Follows setup op w ((TokenIssuer.refresh setup token).runOn w).2 := by
  have hf : Follows setup op w w := .refl h
  rw [TokenIssuer.runOn_refresh h]
  split
  · exact hf
  · cases w.sessions.get? token with
    | none => exact hf.congr rfl rfl rfl
    | some s =>
      dsimp only
      split
      · exact hf.congr rfl rfl rfl
      · cases TokenIssuer.nextSession? setup s.account w <;> exact hf.congr rfl rfl rfl

theorem follows_register (h : w.Sound) (r : Login.Registration) :
    Follows setup (register r) w ((Login.register setup r).runOn w).2 := by
  have hf : Follows setup (register r) w w := .refl h
  have ht : (Login.tookId w).Sound := h.congr rfl rfl
  rw [Login.runOn_register h]
  cases w.find? (Text.fold r.email) with
  | some _ => exact hf
  | none =>
    cases hh : setup.hasher.hash setup.sources.salts r.password with
    | error f => exact hf.congr rfl rfl rfl
    | ok passwordHash =>
      dsimp only
      obtain ⟨e, he⟩ | ⟨hr, hs, hn, hl⟩ := runOn_enroll ht
        (show (Login.newAccount setup r passwordHash w).credentials = { passwordHash } from rfl)
      · rw [he]
        exact hf.congr rfl rfl rfl
      · rw [hr]
        suffices hf' : Follows setup (register r) w
          ((Login.tookId w).enrolled (Login.newAccount setup r passwordHash w))
          from hf'.logged ..
        refine ⟨hs, rfl, rfl, fun i => ?_⟩
        rw [hl]
        by_cases hi : i = (Login.newAccount setup r passwordHash w).id
        · subst hi
          rw [Function.update_self, show w.account? _ = none from hn]
          exact .created ⟨r, passwordHash, rfl, hh, rfl⟩
        · rw [Function.update_of_ne hi]
          exact .refl _

theorem follows_initiate (h : w.Sound) (id number : String) :
    Follows setup (initiatePhone id number) w ((SmsFactor.initiate setup id number).runOn w).2 := by
  have hf : Follows setup (initiatePhone id number) w w := .refl h
  rw [SmsFactor.runOn_initiate h]
  cases ha : w.account? id with
  | none => exact hf
  | some a =>
    refine Follows.issue ?_ _ _ _ _ fun _ code t => .initiated code t
    unfold SmsFactor.moved
    split
    · exact hf
    · have hr := h.renumbered ha (some number)
      have ha' := SmsFactor.account?_renumbered_self h ha (some number)
      refine hf.put (hr.changed ha' SmsFactor.storable_unproven) rfl rfl ha ?_ .moved
      rw [account?_changed hr ha' SmsFactor.storable_unproven, account?_renumbered h ha, Function.update_idem]

theorem follows_enableSms (h : w.Sound) (id : String) :
    Follows setup (enableSms id) w ((SmsFactor.enable setup id).runOn w).2 := by
  have hf : Follows setup (enableSms id) w w := .refl h
  rw [SmsFactor.runOn_enable h]
  cases ha : w.account? id with
  | none => exact hf
  | some a =>
    dsimp only
    split
    · exact hf
    · next hg =>
      rw [not_or] at hg
      exact (hf.changed ha (SmsFactor.storable_smsEnabled true)
        (.smsEnabled (by simpa [Option.isSome_iff_ne_none] using hg.1) (by simpa using hg.2))).logged ..

theorem follows_disableSms (h : w.Sound) (id : String) :
    Follows setup (disableSms id) w ((SmsFactor.disable setup id).runOn w).2 := by
  have hf : Follows setup (disableSms id) w w := .refl h
  rw [SmsFactor.runOn_disable h]
  cases ha : w.account? id with
  | none => exact hf
  | some a =>
    dsimp only
    split
    · exact hf
    · have hs : Storable (LawfulStore.Keeps S) _ := SmsFactor.storable_smsEnabled false
      have ha' := account?_changed_self h ha hs
      exact ((hf.changed ha hs .smsDisabled).changed ha' OtpChallenge.storable_clearOtp .smsCleared).logged ..

theorem follows_clear (h : w.Sound) (id : String) :
    Follows setup (clearOtp id) w ((OtpChallenge.clear id).runOn w).2 := by
  have hf : Follows setup (clearOtp id) w w := .refl h
  rw [OtpChallenge.runOn_clear h]
  cases ha : w.account? id with
  | none => exact hf
  | some a => exact hf.changed ha OtpChallenge.storable_clearOtp .cleared

theorem follows_generateTotp (h : w.Sound) (id : String) :
    Follows setup (generateTotp id) w ((TotpFactor.generate setup id).runOn w).2 := by
  have hf : Follows setup (generateTotp id) w w := .refl h
  rw [TotpFactor.runOn_generate h]
  cases ha : w.account? id with
  | none => exact hf
  | some a =>
    dsimp only
    cases Totp.checkConfig setup.totp with
    | error f => exact hf.drew _
    | ok _ =>
      exact (hf.drew _).changed ha (TotpFactor.storable_totpSecret _)
        (.secretMade _ (by simp [nextDraws]))

theorem follows_enableTotp (h : w.Sound) (id code : String) :
    Follows setup (enableTotp id code) w ((TotpFactor.enable setup id code).runOn w).2 := by
  have hf : Follows setup (enableTotp id code) w w := .refl h
  rw [TotpFactor.runOn_enable h]
  cases ha : w.account? id with
  | none => exact hf
  | some a =>
    dsimp only
    cases hu : TotpFactor.usableSecret? a.credentials with
    | none => exact hf
    | some secret =>
      dsimp only
      rcases Totp.verify setup.totp secret code w.clock with f | ⟨_ | _⟩
      · exact hf
      · exact hf.logged ..
      · exact (hf.changed ha (TotpFactor.storable_totpEnabled true) (.totpEnabled (by rw [hu]; rfl))).logged ..

theorem follows_disableTotp (h : w.Sound) (id code : String) :
    Follows setup (disableTotp id code) w ((TotpFactor.disable setup id code).runOn w).2 := by
  have hf : Follows setup (disableTotp id code) w w := .refl h
  rw [TotpFactor.runOn_disable h]
  cases ha : w.account? id with
  | none => exact hf
  | some a =>
    dsimp only
    split
    · exact hf
    · cases TotpFactor.usableSecret? a.credentials with
      | none => exact hf
      | some secret =>
        dsimp only
        rcases Totp.verify setup.totp secret code w.clock with f | ⟨_ | _⟩
        · exact hf
        · exact hf.logged ..
        · exact (hf.changed ha TotpFactor.storable_removal .totpDisabled).logged ..

theorem follows_validateTotp (h : w.Sound) (id code : String) :
    Follows setup (validateTotp id code) w ((TotpFactor.validate setup id code).runOn w).2 := by
  have hf : Follows setup (validateTotp id code) w w := .refl h
  rw [TotpFactor.runOn_validate h]
  cases w.account? id with
  | none => exact hf
  | some a =>
    dsimp only
    split
    · exact hf
    · cases TotpFactor.usableSecret? a.credentials with
      | none => exact hf
      | some secret =>
        dsimp only
        rcases Totp.verify setup.totp secret code w.clock with f | ⟨_ | _⟩
        · exact hf
        · exact hf.logged ..
        · exact hf.logged ..

theorem follows_generateBackup (h : w.Sound) (id : String) :
    Follows setup (generateBackup id) w ((BackupVault.generate setup id).runOn w).2 := by
  have hf : Follows setup (generateBackup id) w w := .refl h
  rw [BackupVault.runOn_generate h]
  cases ha : w.account? id with
  | none => exact hf
  | some a =>
    dsimp only
    split
    · exact hf
    · split
      · exact hf
      · cases hk : BackupVault.makeRoom setup.backup.maxStored a.credentials.backupCodes with
        | error e => exact hf
        | ok kept =>
          exact ((hf.drew _).changed ha (BackupVault.storable_made h ha hk _) (.codeMade _ hk)).logged ..

theorem follows_verifyBackup (h : w.Sound) (id code : String) :
    Follows setup (verifyBackup id code) w ((BackupVault.verify setup id code).runOn w).2 := by
  have hf : Follows setup (verifyBackup id code) w w := .refl h
  rw [BackupVault.runOn_verify h]
  cases ha : w.account? id with
  | none => exact hf
  | some a =>
    dsimp only
    split
    · exact hf
    · rcases BackupVault.findUnused? code a.credentials.backupCodes with f | _ | i
      · exact hf
      · exact hf.logged ..
      · exact (hf.changed ha (BackupVault.storable_modify_spent h ha i) (.codeSpent i)).logged ..

theorem follows_remainingBackup (h : w.Sound) (id : String) :
    Follows setup (remainingBackup id) w ((BackupVault.remaining id).runOn w).2 := by
  have hf : Follows setup (remainingBackup id) w w := .refl h
  rw [BackupVault.runOn_remaining h]
  cases w.account? id with
  | none => exact hf
  | some a =>
    dsimp only
    split
    · exact hf
    · exact hf

/-- **Every call** leaves a sound state at the same time, and accounts that its writes explain. -/
theorem follows_run (setup : Setup) (h : w.Sound) (op : Operation) : Follows setup op w (op.run setup w).2 := by
  cases op with
  | login identifier password c => rw [run_login setup h]; exact follows_login h ..
  | finishLogin id code c => rw [run_finishLogin setup h]; exact follows_finish h ..
  | refresh token c =>
    have hr : Follows setup (refresh token c) w _ := follows_refresh h (refresh token c) token
    rw [run_refresh setup h, Login.runOn_loginRefresh h]
    rcases he : (TokenIssuer.refresh setup token).runOn w with ⟨f | tokens, v⟩
    · rw [he] at hr
      exact hr
    · rw [he] at hr
      exact Follows.logged hr ..
  | logout token c =>
    rw [run_logout setup h, Login.runOn_logout h]
    exact (Follows.refl h).congr rfl rfl rfl
  | register r => exact Action.snd_runOn_map Reply.view _ w ▸ follows_register h r
  | issueOtp id purpose number =>
    rw [run_issueOtp]
    exact (Follows.refl h).issue _ _ _ _ fun _ code t => .issued code t
  | verifyOtp id code purpose => rw [run_verifyOtp]; exact (Follows.refl h).verify id code purpose rfl
  | clearOtp id => rw [run_clearOtp]; exact follows_clear h id
  | initiatePhone id number => rw [run_initiatePhone]; exact follows_initiate h id number
  | verifyPhone id code => rw [run_verifyPhone]; exact (Follows.refl h).verify id code .phoneVerification rfl
  | enableSms id => exact Action.snd_runOn_map Reply.flag _ w ▸ follows_enableSms h id
  | disableSms id => exact Action.snd_runOn_map Reply.flag _ w ▸ follows_disableSms h id
  | generateTotp id => exact Action.snd_runOn_map Reply.enrollment _ w ▸ follows_generateTotp h id
  | enableTotp id code => exact Action.snd_runOn_map Reply.flag _ w ▸ follows_enableTotp h id code
  | disableTotp id code => exact Action.snd_runOn_map Reply.flag _ w ▸ follows_disableTotp h id code
  | validateTotp id code => exact Action.snd_runOn_map Reply.flag _ w ▸ follows_validateTotp h id code
  | generateBackup id => exact Action.snd_runOn_map Reply.backupCode _ w ▸ follows_generateBackup h id
  | verifyBackup id code => exact Action.snd_runOn_map Reply.flag _ w ▸ follows_verifyBackup h id code
  | remainingBackup id => exact Action.snd_runOn_map Reply.count _ w ▸ follows_remainingBackup h id

/-! ## Sessions and messages -/

/-- The sessions and the sent messages of a state. -/
def traffic (w : World S) : Sessions × List TextMessage := (w.sessions, w.outbox)

/-- The call is not about sessions. -/
def keepsSessions : Operation → Bool
  | login .. | finishLogin .. | refresh .. | logout .. => false
  | _ => true

/-- The call may send a message. -/
def mayText : Operation → Bool
  | login .. | issueOtp .. | initiatePhone .. => true
  | _ => false

theorem sessions_issue (h : w.Sound) (config : OtpConfig) (id : String) (purpose : OtpPurpose)
    (number : Option String) :
    ((OtpChallenge.issue setup config id purpose number).runOn w).2.sessions = w.sessions := by
  have hends := OtpChallenge.ends_issue h setup config id purpose number
  generalize (OtpChallenge.issue setup config id purpose number).runOn w = r at hends ⊢
  cases hends <;> rfl

omit [LawfulStore S] in
theorem traffic_swept (id : String) (slot : OtpSlot) : traffic (OtpChallenge.swept id slot w) = traffic w := by
  unfold OtpChallenge.swept
  split <;> rfl

theorem traffic_verify (h : w.Sound) (id submitted : String) (purpose : OtpPurpose) :
    traffic ((OtpChallenge.verify setup id submitted purpose).runOn w).2 = traffic w := by
  have hends := OtpChallenge.ends_verify h setup id submitted purpose
  generalize (OtpChallenge.verify setup id submitted purpose).runOn w = r at hends ⊢
  cases hends with
  | notPending ha hp => exact traffic_swept ..
  | _ => rfl

theorem sessions_verify (h : w.Sound) (id submitted : String) (purpose : OtpPurpose) :
    ((OtpChallenge.verify setup id submitted purpose).runOn w).2.sessions = w.sessions :=
  congrArg Prod.fst (traffic_verify h id submitted purpose)

omit [AccountStore S] [LawfulStore S] in
theorem traffic_map {α : Type} (f : α → Reply) {x : Op S α} (hx : traffic (x.runOn w).2 = traffic w) :
    traffic ((f <$> x).runOn w).2 = traffic w :=
  (congrArg traffic (Action.snd_runOn_map f x w)).trans hx

/-- Calls that are neither about sessions nor about new codes leave sessions and messages alone. -/
theorem traffic_run (h : w.Sound) (op : Operation) (hk : op.keepsSessions) (ht : op.mayText = false) :
    traffic (op.run setup w).2 = traffic w := by
  cases op with
  | login => cases hk
  | finishLogin => cases hk
  | refresh => cases hk
  | logout => cases hk
  | issueOtp => cases ht
  | initiatePhone => cases ht
  | register r =>
    refine traffic_map .view ?_
    have ht : (Login.tookId w).Sound := h.congr rfl rfl
    rw [Login.runOn_register h]
    cases w.find? (Text.fold r.email) with
    | some _ => rfl
    | none =>
      cases setup.hasher.hash setup.sources.salts r.password with
      | error f => rfl
      | ok passwordHash =>
        dsimp only
        obtain ⟨e, he⟩ | ⟨hr, -⟩ := runOn_enroll ht
          (show (Login.newAccount setup r passwordHash w).credentials = { passwordHash } from rfl)
        · rw [he]; rfl
        · rw [hr]; rfl
  | verifyOtp id code purpose => rw [run_verifyOtp]; exact traffic_verify h ..
  | clearOtp id =>
    rw [run_clearOtp, OtpChallenge.runOn_clear h]
    cases w.account? id <;> rfl
  | verifyPhone id code => rw [run_verifyPhone]; exact traffic_verify h ..
  | enableSms id =>
    refine traffic_map .flag ?_
    rw [SmsFactor.runOn_enable h]
    (repeat' split) <;> rfl
  | disableSms id =>
    refine traffic_map .flag ?_
    rw [SmsFactor.runOn_disable h]
    (repeat' split) <;> rfl
  | generateTotp id =>
    refine traffic_map .enrollment ?_
    rw [TotpFactor.runOn_generate h]
    (repeat' split) <;> rfl
  | enableTotp id code =>
    refine traffic_map .flag ?_
    rw [TotpFactor.runOn_enable h]
    (repeat' split) <;> rfl
  | disableTotp id code =>
    refine traffic_map .flag ?_
    rw [TotpFactor.runOn_disable h]
    (repeat' split) <;> rfl
  | validateTotp id code =>
    refine traffic_map .flag ?_
    rw [TotpFactor.runOn_validate h]
    (repeat' split) <;> rfl
  | generateBackup id =>
    refine traffic_map .backupCode ?_
    rw [BackupVault.runOn_generate h]
    (repeat' split) <;> rfl
  | verifyBackup id code =>
    refine traffic_map .flag ?_
    rw [BackupVault.runOn_verify h]
    (repeat' split) <;> rfl
  | remainingBackup id =>
    refine traffic_map .count ?_
    rw [BackupVault.runOn_remaining h]
    (repeat' split) <;> rfl

theorem sessions_run (h : w.Sound) (op : Operation) (hk : op.keepsSessions) :
    (op.run setup w).2.sessions = w.sessions := by
  cases ht : op.mayText with
  | false => exact congrArg Prod.fst (traffic_run h op hk ht)
  | true =>
    cases op with
    | issueOtp id purpose number => rw [run_issueOtp]; exact sessions_issue h ..
    | initiatePhone id number =>
      rw [run_initiatePhone, SmsFactor.runOn_initiate h]
      cases ha : w.account? id with
      | none => rfl
      | some a =>
        refine (sessions_issue (SmsFactor.sound_moved h ha number) ..).trans ?_
        unfold SmsFactor.moved
        split <;> rfl
    | login => cases hk
    | _ => cases ht

/-- Opening a session sends no message. -/
theorem outbox_complete (h : w.Sound) (a : Account) (c : Option RequestContext) :
    ((Login.complete setup a c).runOn w).2.outbox = w.outbox := by
  rw [Login.runOn_complete h]
  split <;> rfl

/-- Calls that issue no code send no message. -/
theorem outbox_run (h : w.Sound) (op : Operation) (ht : op.mayText = false) :
    (op.run setup w).2.outbox = w.outbox := by
  cases hk : op.keepsSessions with
  | true => exact congrArg Prod.snd (traffic_run h op hk ht)
  | false =>
    cases op with
    | login => cases ht
    | finishLogin id code c =>
      have hv : ((OtpChallenge.verify setup id code .loginChallenge).runOn w).2.outbox = w.outbox :=
        congrArg Prod.snd (traffic_verify h ..)
      rw [run_finishLogin setup h, Login.runOn_finish h]
      rcases hr : (OtpChallenge.verify setup id code .loginChallenge).runOn w with ⟨f | a, v⟩
      · rw [hr] at hv
        exact hv
      · rw [hr] at hv
        obtain ⟨hs, hb, -⟩ := OtpChallenge.account?_of_verify_ok h hr
        exact (outbox_complete (hs.changed hb (Login.storable_lastLogin h.clock)) a c).trans hv
    | refresh token c =>
      have ho : ((TokenIssuer.refresh setup token).runOn w).2.outbox = w.outbox := by
        rw [TokenIssuer.runOn_refresh h]
        (repeat' split) <;> rfl
      rw [run_refresh setup h, Login.runOn_loginRefresh h]
      rcases hr : (TokenIssuer.refresh setup token).runOn w with ⟨f | tokens, v⟩
      · rw [hr] at ho
        exact ho
      · rw [hr] at ho
        exact ho
    | logout token c =>
      rw [run_logout setup h, Login.runOn_logout h]
      rfl
    | _ => cases hk

end AccountSecurity.Operation
