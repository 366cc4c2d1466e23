import AccountSecurity.Proofs.Http.Bodies
import AccountSecurity.Proofs.Http.Routing
import AccountSecurity.Proofs.Run
import AccountSecurity.Proofs.Service.Local

/-!
# Requests are calls of the services

* `Route.Calls` : the call that a route makes of the fields of a body, for the account of the session;
* `Route.Gives`, `Route.Answers` : the answer with what a call gives, and the answer to a call however it ends;
* `Router.Asks` : a request that reaches a route, passes its guard and has a valid body, with the call that it asks for;
* `Router.runOn_handle_of_asks` : what is done for such a request is the call;
* `Router.after_handle` : for any other request nothing is done;
* `requests_are_calls` : **the router** is the services, and what comes with a session concerns its account only.
-/

namespace AccountSecurity
open World

/-! ## The calls of the routes -/

/-- The call that a route makes of the fields of a body. The first four name their account in the body, by a token or by
its address; the others are for the account of the session. -/
inductive Route.Calls (context : RequestContext) (id : String) : Route → List (String × String) → Operation → Prop
  | login (identifier password : String) :
      Calls context id login [("identifier", identifier), ("password", password)]
        (.login identifier password (some context))
  | verifyOtp (account code : String) :
      Calls context id verifyOtp [("account_id", account), ("code", code)] (.finishLogin account code (some context))
  | refresh (token : String) :
      Calls context id refresh [("refresh_token", token)] (.refresh token (some context))
  | logout (token : String) :
      Calls context id logout [("refresh_token", token)] (.logout token (some context))
  | totpGenerate : Calls context id totpGenerate [] (.generateTotp id)
  | totpEnable (code : String) : Calls context id totpEnable [("code", code)] (.enableTotp id code)
  | totpDisable (code : String) : Calls context id totpDisable [("code", code)] (.disableTotp id code)
  | totpVerify (code : String) : Calls context id totpVerify [("code", code)] (.validateTotp id code)
  | backupGenerate : Calls context id backupGenerate [] (.generateBackup id)
  | backupVerify (code : String) : Calls context id backupVerify [("code", code)] (.verifyBackup id code)
  | smsInitiate (number : String) :
      Calls context id smsInitiate [("phone_number", number)] (.initiatePhone id number)
  | smsVerify (code : String) : Calls context id smsVerify [("code", code)] (.verifyPhone id code)
  | smsEnable : Calls context id smsEnable [] (.enableSms id)
  | smsDisable : Calls context id smsDisable [] (.disableSms id)

/-- The fields of the answer with what a call on a route gives. -/
inductive Route.Gives : Route → Reply → List (String × Json) → Prop
  | login (tokens : TokenSet) (account : AccountView) (hname : account.displayName.isSome) :
      Gives login (.loggedIn tokens account) (tokens.fields ++ [("account", account.toJson)])
  | challenge (account : String) :
      Gives login (.challenged account) [("message", .string "SMS OTP verification required."),
        ("sms_otp_required", .bool true), ("account_id", .string account)]
  | verifyOtp (tokens : TokenSet) (account : AccountView) (hname : account.displayName.isSome) :
      Gives verifyOtp (.loggedIn tokens account) (tokens.fields ++ [("account", account.toJson)])
  | refresh (tokens : TokenSet) : Gives refresh (.tokens tokens) (tokens.fields ++ [("account", .null)])
  | logout (closed : Bool) : Gives logout (.flag closed) [("success", .bool closed)]
  | totpGenerate (e : TotpFactor.Enrollment) :
      Gives totpGenerate (.enrollment e) [("secret", .string e.secret), ("provisioning_uri", .string e.provisioningUri),
        ("qr_code_data_uri", .optionalString e.picture)]
  | totpEnable : Gives totpEnable (.flag true) [("success", .bool true)]
  | totpDisable : Gives totpDisable (.flag true) [("success", .bool true)]
  | totpVerify (valid : Bool) : Gives totpVerify (.flag valid) [("is_valid", .bool valid)]
  | backupGenerate (code : String) : Gives backupGenerate (.backupCode code) [("code", .string code)]
  | backupVerify (valid : Bool) : Gives backupVerify (.flag valid) [("is_valid", .bool valid)]
  | smsInitiate : Gives smsInitiate .done [("success", .bool true)]
  | smsVerify : Gives smsVerify (.flag true) [("success", .bool true)]
  | smsEnable : Gives smsEnable (.flag true) [("success", .bool true)]
  | smsDisable : Gives smsDisable (.flag true) [("success", .bool true)]

/-- The answer on a route to a call, however it ends: what it gives, or its refusal with status and text, and a word on
how to authenticate where that is missing. A fault ends the request without an answer; so does the login of an account
without a name, which the type of accounts excludes. -/
inductive Route.Answers (route : Route) : Except Failure Reply → Except Failure Response → Prop
  | given {reply : Reply} {fields : List (String × Json)} (h : route.Gives reply fields) :
      Answers route (.ok reply) (.ok { status := 200, body := some (.object fields) })
  | refused (e : SecurityError) :
      Answers route (.error (.refused e)) (.ok
        { status := e.status
          body := some (.object [("detail", .string e.message)])
          wwwAuthenticate := if e.status = 401 then some "Bearer" else none })
  | failed (f : Fault) : Answers route (.error (.fault f)) (.error (.fault f))
  | nameless {tokens : TokenSet} {account : AccountView} (h : account.displayName = none) :
      Answers route (.ok (.loggedIn tokens account)) (.error (.fault (.answerLacks "display_name")))

namespace Route
variable {context : RequestContext} {request : Request} {id : String} {route : Route} {op : Operation}
  {fields : List (String × String)}

/-- The call that is made of a body that was read. -/
theorem calls_operation (hf : route.readFields request = .ok fields) :
    route.Calls (RequestContext.ofHeaders request.headers request.client) id fields
      (route.operation request id fields) := by
  have hone {m : RequestModel} {field : String × Rule} (hm : m.fields = [field])
      (hf : m.readBody request.json? = .ok fields) : ∃ s, fields = [(field.1, s)] := by
    obtain ⟨_, -, hread⟩ := RequestModel.readBody_eq_ok.1 hf
    exact RequestModel.eq_of_hasField (hm ▸ hread)
  have htwo {m : RequestModel} {first second : String × Rule} (hm : m.fields = [first, second])
      (hf : m.readBody request.json? = .ok fields) : ∃ s t, fields = [(first.1, s), (second.1, t)] := by
    obtain ⟨_, -, hread⟩ := RequestModel.readBody_eq_ok.1 hf
    exact RequestModel.eq_of_hasFields (hm ▸ hread)
  cases route with
  | login =>
    obtain ⟨identifier, password, rfl⟩ := htwo (m := .login) rfl hf
    exact .login identifier password
  | verifyOtp =>
    obtain ⟨account, code, rfl⟩ := htwo (m := .smsOtpVerify) rfl hf
    exact .verifyOtp account code
  | refresh => obtain ⟨token, rfl⟩ := hone (m := .refreshToken) rfl hf; exact .refresh token
  | logout => obtain ⟨token, rfl⟩ := hone (m := .refreshToken) rfl hf; exact .logout token
  | totpGenerate => cases hf; exact .totpGenerate
  | totpEnable => obtain ⟨code, rfl⟩ := hone (m := .code) rfl hf; exact .totpEnable code
  | totpDisable => obtain ⟨code, rfl⟩ := hone (m := .code) rfl hf; exact .totpDisable code
  | totpVerify => obtain ⟨code, rfl⟩ := hone (m := .code) rfl hf; exact .totpVerify code
  | backupGenerate => cases hf; exact .backupGenerate
  | backupVerify => obtain ⟨code, rfl⟩ := hone (m := .backupCodeVerify) rfl hf; exact .backupVerify code
  | smsInitiate => obtain ⟨number, rfl⟩ := hone (m := .phoneNumber) rfl hf; exact .smsInitiate number
  | smsVerify => obtain ⟨code, rfl⟩ := hone (m := .code) rfl hf; exact .smsVerify code
  | smsEnable => cases hf; exact .smsEnable
  | smsDisable => cases hf; exact .smsDisable

/-- The fields of a body tell the call. -/
theorem Calls.eq_operation (hc : route.Calls (RequestContext.ofHeaders request.headers request.client) id fields op) :
    op = route.operation request id fields := by
  cases hc <;> rfl

end Route

/-! ## What calls give -/

section
variable {S : Type}

/-- Whatever an operation gives has a property. -/
def Returns {α : Type} (Q : α → Prop) (a : Op S α) : Prop := ∀ w r, (a.runOn w).1 = .ok r → Q r

namespace Returns
variable {α β : Type} {P : α → Prop} {Q : β → Prop}

theorem bind_of {x : Op S α} {f : α → Op S β} (hx : Returns P x) (hf : ∀ a, P a → Returns Q (f a)) :
    Returns Q (x >>= f) := by
  intro w r hr
  rw [Action.runOn_bind] at hr
  rcases hrun : x.runOn w with ⟨e | a, v⟩
  · rw [hrun] at hr
    cases hr
  · rw [hrun] at hr
    exact hf a (hx w a (by rw [hrun])) v r hr

theorem bind {x : Op S α} {f : α → Op S β} (hf : ∀ a, Returns Q (f a)) : Returns Q (x >>= f) :=
  bind_of (P := fun _ => True) (fun _ _ _ => trivial) fun a _ => hf a

theorem ret {b : β} (h : Q b) : Returns Q (pure b : Op S β) := fun _ _ hr => Except.ok.inj hr ▸ h

theorem refuse (e : SecurityError) : Returns Q (Action.refuse e : Op S β) := fun _ _ hr => by cases hr

theorem fail (f : Fault) : Returns Q (Action.fail f : Op S β) := fun _ _ hr => by cases hr

theorem map {x : Op S α} {f : α → β} (hx : Returns (fun a => Q (f a)) x) : Returns Q (f <$> x) := by
  intro w r hr
  rw [Action.runOn_map] at hr
  rcases hx' : (x.runOn w).1 with e | a
  · rw [hx'] at hr
    cases hr
  · rw [hx'] at hr
    exact Except.ok.inj hr ▸ hx w a hx'

theorem any {x : Op S α} (h : ∀ a, P a) : Returns P x := fun _ r _ => h r

end Returns
end

variable {S : Type} [AccountStore S] {setup : Setup}

theorem returns_enableTotp (id submitted : String) :
    Returns (S := S) (· = true) (TotpFactor.enable setup id submitted) := by
  unfold TotpFactor.enable
  refine .bind fun a => ?_
  split
  · exact .refuse _
  · refine .bind fun right => ?_
    split
    · exact .bind fun _ => .bind fun _ => .ret rfl
    · exact .bind fun _ => .refuse _

theorem returns_disableTotp (id submitted : String) :
    Returns (S := S) (· = true) (TotpFactor.disable setup id submitted) := by
  unfold TotpFactor.disable
  refine .bind fun a => ?_
  split
  · exact .refuse _
  split
  · exact .refuse _
  · refine .bind fun right => ?_
    split
    · exact .bind fun _ => .bind fun _ => .ret rfl
    · exact .bind fun _ => .refuse _

theorem returns_enableSms (id : String) : Returns (S := S) (· = true) (SmsFactor.enable setup id) := by
  unfold SmsFactor.enable
  refine .bind fun a => ?_
  split
  · exact .refuse _
  · exact .bind fun _ => .bind fun _ => .ret rfl

theorem returns_disableSms (id : String) : Returns (S := S) (· = true) (SmsFactor.disable setup id) := by
  unfold SmsFactor.disable
  refine .bind fun a => ?_
  split
  · exact .refuse _
  · exact .bind fun _ => .bind fun _ => .bind fun _ => .ret rfl

namespace Route
variable {context : RequestContext} {request : Request} {id : String} {route : Route} {op : Operation}
  {fields : List (String × String)} {reply : Reply}

/-- The answer on a route to a call, however it ends. -/
def respond (route : Route) : Except Failure Reply → Except Failure Response
  | .ok reply => (route.responseOf reply).mapError .fault
  | .error (.refused e) => .ok (.ofRefusal e)
  | .error (.fault f) => .error (.fault f)

/-- What the call of a route gives is answered. -/
theorem Calls.returns (hc : route.Calls context id fields op) :
    Returns (S := S) (fun reply => route.Answers (.ok reply) (route.respond (.ok reply))) (op.perform setup) := by
  have hgiven {reply : Reply} {fields : List (String × Json)} (h : route.Gives reply fields)
      (hr : route.responseOf reply = .ok { status := 200, body := some (.object fields) }) :
      route.Answers (.ok reply) (route.respond (.ok reply)) := by
    rw [respond, hr]
    exact .given h
  have hnamed {tokens : TokenSet} {account : AccountView}
      (h : account.displayName.isSome →
        route.Gives (.loggedIn tokens account) (tokens.fields ++ [("account", account.toJson)])) :
      route.Answers (.ok (.loggedIn tokens account)) (route.respond (.ok (.loggedIn tokens account))) := by
    cases hname : account.displayName with
    | none =>
      rw [respond, responseOf, hname]
      exact .nameless hname
    | some name =>
      refine hgiven (h (by rw [hname]; rfl)) ?_
      rw [responseOf, hname]
      rfl
  cases hc with
  | login identifier password =>
    refine .bind fun _ => .map (.any fun outcome => ?_)
    cases outcome with
    | success tokens account => exact hnamed (.login tokens account)
    | challenge account => exact hgiven (.challenge account) rfl
  | verifyOtp account code => exact .bind fun _ => .bind fun r => .ret (hnamed (.verifyOtp r.1 r.2))
  | refresh token => exact .bind fun _ => .map (.any fun tokens => hgiven (.refresh tokens) rfl)
  | logout token => exact .bind fun _ => .map (.any fun closed => hgiven (.logout closed) rfl)
  | totpGenerate => exact .map (.any fun e => hgiven (.totpGenerate e) rfl)
  | totpEnable code => exact .map fun w b hb => returns_enableTotp id code w b hb ▸ hgiven .totpEnable rfl
  | totpDisable code => exact .map fun w b hb => returns_disableTotp id code w b hb ▸ hgiven .totpDisable rfl
  | totpVerify code => exact .map (.any fun valid => hgiven (.totpVerify valid) rfl)
  | backupGenerate => exact .map (.any fun code => hgiven (.backupGenerate code) rfl)
  | backupVerify code => exact .map (.any fun valid => hgiven (.backupVerify valid) rfl)
  | smsInitiate number => exact .bind fun _ => .ret (hgiven .smsInitiate rfl)
  | smsVerify code => exact .map (.bind fun _ => .ret (hgiven .smsVerify rfl))
  | smsEnable => exact .map fun w b hb => returns_enableSms id w b hb ▸ hgiven .smsEnable rfl
  | smsDisable => exact .map fun w b hb => returns_disableSms id w b hb ▸ hgiven .smsDisable rfl

/-- **However a call ends**, it is answered. -/
theorem Calls.answers (hc : route.Calls context id fields op) (w : World S) :
    route.Answers (op.run setup w).1 (route.respond (op.run setup w).1) := by
  rcases hr : (op.run setup w).1 with (e | f) | reply
  · exact .refused e
  · exact .failed f
  · exact hc.returns w reply hr

end Route

/-! ## The guard -/

/-- The account of the live session whose access token a request bears. -/
def Request.account? (request : Request) (w : World S) : Option AccountView :=
  match request.credentials?, w.clock.toUtc? with
  | some (scheme, token), some now => if scheme = "Bearer" then Sessions.resolve? w.sessions token now else none
  | _, _ => none

namespace Router
variable {request : Request} {r : Router} {route : Route} {op : Operation} {w : World S}

omit [AccountStore S] in
/-- The guard looks up the session and changes nothing. It fails at the ends of the calendar only. -/
theorem runOn_sessionAccount? (request : Request) (w : World S) :
    (sessionAccount? request).runOn w = (.ok (request.account? w), w) ∨
      request.account? w = none ∧ ∃ f, (sessionAccount? request).runOn w = (.error (.fault f), w) := by
  unfold sessionAccount? Request.account?
  cases request.credentials? with
  | none => exact .inl rfl
  | some c =>
    obtain ⟨scheme, token⟩ := c
    dsimp only
    by_cases hs : scheme = "Bearer"
    · rw [show TokenSet.tokenType = "Bearer" from rfl, if_pos hs]
      unfold TokenIssuer.resolve utcNow
      rw [Action.runOn_bind, Action.runOn_bind_of_ok (Action.runOn_get w), runOn_orFail]
      cases w.clock.toUtc? with
      | none => exact .inr ⟨rfl, _, rfl⟩
      | some now => exact .inl (by dsimp only; rw [if_pos hs]; rfl)
    · rw [show TokenSet.tokenType = "Bearer" from rfl, if_neg hs]
      cases w.clock.toUtc? with
      | none => exact .inl rfl
      | some now => exact .inl (by dsimp only; rw [if_neg hs]; rfl)

/-! ## Handling a request -/

omit [AccountStore S] in
theorem runOn_tryCatch {α : Type} (x : Op S α) (h : Failure → Op S α) (w : World S) :
    (tryCatch x h).runOn w =
      match x.runOn w with
      | (.ok a, v) => (.ok a, v)
      | (.error e, v) => (h e).runOn v := by
  simp only [Action.runOn, tryCatch, tryCatchThe, MonadExceptOf.tryCatch, ExceptT.tryCatch, ExceptT.run, ExceptT.mk,
    StateT.run_bind]
  rcases StateT.run x w with ⟨⟨⟩ | ⟨⟩, v⟩ <;> rfl

omit [AccountStore S] in
theorem runOn_answer (route : Route) (call : Op S Reply) (w : World S) :
    (answer route call).runOn w = (route.respond (call.runOn w).1, (call.runOn w).2) := by
  unfold answer
  rw [Action.runOn_bind, runOn_tryCatch, Action.runOn_map]
  rcases call.runOn w with ⟨(e | f) | reply, v⟩
  · rfl
  · rfl
  · simp only [Except.map, Route.respond]
    cases route.responseOf reply <;> rfl

/-- What is done for a request that has passed the guard of a route. -/
def handleBody (setup : Setup) (request : Request) (route : Route) (id : String) : Op S Response :=
  match route.readFields request with
  | .error issues => Action.ofExcept ((Response.ofIssues issues).mapError .fault)
  | .ok fields => answer route ((route.operation request id fields).perform setup)

theorem runOn_handleRoute_open (ho : route.isOpen) (w : World S) :
    (handleRoute setup request route).runOn w = (handleBody setup request route "").runOn w := by
  unfold handleRoute
  rw [if_pos ho, Action.runOn_bind_of_ok (Action.runOn_pure none w)]
  dsimp only
  rw [if_neg (by simp [ho])]
  rfl

theorem runOn_handleRoute_signedIn {account : AccountView} (ho : route.isOpen = false)
    (ha : request.account? w = some account) :
    (handleRoute setup request route).runOn w = (handleBody setup request route account.id).runOn w := by
  obtain hrun | ⟨hnone, -⟩ := runOn_sessionAccount? request w
  · rw [ha] at hrun
    unfold handleRoute
    rw [if_neg (by simp [ho]), Action.runOn_bind_of_ok hrun]
    dsimp only
    rw [if_neg (by simp)]
    rfl
  · cases hnone.symm.trans ha

/-- Without a live session nothing is done. -/
theorem runOn_handleRoute_signedOut (ho : route.isOpen = false) (ha : request.account? w = none) :
    (handleRoute setup request route).runOn w = (.ok .notAuthenticated, w) ∨
      ∃ f, (handleRoute setup request route).runOn w = (.error (.fault f), w) := by
  unfold handleRoute
  rw [if_neg (by simp [ho])]
  obtain hrun | ⟨-, f, hrun⟩ := runOn_sessionAccount? request w
  · rw [ha] at hrun
    rw [Action.runOn_bind_of_ok hrun]
    dsimp only
    rw [if_pos (by simp [ho])]
    exact .inl rfl
  · exact .inr ⟨f, Action.runOn_bind_of_error hrun⟩

/-- With a body that cannot be used nothing is done. -/
theorem runOn_handleBody_of_issues {issues : List Issue} (hf : route.readFields request = .error issues) (id : String)
    (w : World S) :
    (handleBody setup request route id).runOn w = ((Response.ofIssues issues).mapError .fault, w) := by
  unfold handleBody
  rw [hf]
  exact Action.runOn_ofExcept _ w

/-- A request reaches a route: it can be sent, and the route answers it. -/
structure Reaches (r : Router) (request : Request) (route : Route) : Prop where
  sendable : request.isSendable
  endpoint : r.endpoint? request = some (.route route)

omit [AccountStore S] in
/-- What is found at a path, where an endpoint answers. -/
theorem exists_found {e : Endpoint} (he : r.endpoint? request = some e) :
    ∃ found, r.endpointsAt request.path = .ok found ∧ found.find? (fun e => request.method ∈ e.methods) = some e := by
  unfold endpoint? at he
  cases hfound : r.endpointsAt request.path with
  | error f =>
    rw [hfound] at he
    cases he
  | ok found =>
    rw [hfound] at he
    exact ⟨found, rfl, he⟩

theorem runOn_handle_of_reaches (hr : r.Reaches request route) (w : World S) :
    (r.handle setup request).runOn w = (handleRoute setup request route).runOn w := by
  obtain ⟨found, hat, hfind⟩ := exists_found hr.endpoint
  unfold handle
  rw [if_neg (by simp [hr.sendable]), hat]
  refine (Action.runOn_bind_of_ok (Action.runOn_ofExcept _ w)).trans ?_
  rw [hfind]
  rfl

/-- Where no route is reached nothing is done. -/
theorem after_handle_of_unreached (hn : ∀ route, ¬ r.Reaches request route) (w : World S) :
    ((r.handle setup request).runOn w).2 = w := by
  unfold handle
  by_cases hs : request.isSendable
  · rw [if_neg (by simp [hs]), Action.runOn_bind, Action.runOn_ofExcept]
    cases hat : r.endpointsAt request.path with
    | error f => rfl
    | ok found =>
      simp only [Except.mapError]
      cases hfind : found.find? fun e => request.method ∈ e.methods with
      | none =>
        dsimp only
        split
        · rfl
        · rw [Action.runOn_ofExcept]
      | some e =>
        cases e with
        | page => rfl
        | route route =>
          refine absurd ⟨hs, ?_⟩ (hn route)
          unfold endpoint?
          rw [hat]
          exact hfind
  · rw [if_pos (by simp [hs])]
    rfl

/-- A request asks for a call: it reaches a route; its session, where the route needs one, is live; and its body has the
fields of which the route makes the call. -/
inductive Asks (r : Router) (request : Request) (w : World S) (route : Route) (op : Operation) : Prop
  | openly {fields : List (String × String)} (hr : r.Reaches request route) (ho : route.isOpen)
      (hf : route.readFields request = .ok fields)
      (hc : ∀ id, route.Calls (RequestContext.ofHeaders request.headers request.client) id fields op)
  | signedIn {account : AccountView} {fields : List (String × String)} (hr : r.Reaches request route)
      (ho : route.isOpen = false) (ha : request.account? w = some account) (hf : route.readFields request = .ok fields)
      (hc : route.Calls (RequestContext.ofHeaders request.headers request.client) account.id fields op)

omit [AccountStore S] in
theorem Asks.calls (h : r.Asks request w route op) :
    ∃ id fields, route.Calls (RequestContext.ofHeaders request.headers request.client) id fields op := by
  cases h with
  | openly hr ho hf hc => exact ⟨"", _, hc ""⟩
  | signedIn hr ho ha hf hc => exact ⟨_, _, hc⟩

theorem runOn_handleBody {fields : List (String × String)} {id : String} (hf : route.readFields request = .ok fields)
    (hc : route.Calls (RequestContext.ofHeaders request.headers request.client) id fields op) (w : World S) :
    (handleBody setup request route id).runOn w = (route.respond (op.run setup w).1, (op.run setup w).2) := by
  unfold handleBody
  rw [hf, hc.eq_operation]
  exact runOn_answer ..

/-- **What is done** for a request that asks for a call is the call. -/
theorem runOn_handle_of_asks (h : r.Asks request w route op) :
    (r.handle setup request).runOn w = (route.respond (op.run setup w).1, (op.run setup w).2) := by
  cases h with
  | openly hr ho hf hc => rw [runOn_handle_of_reaches hr, runOn_handleRoute_open ho, runOn_handleBody hf (hc "")]
  | signedIn hr ho ha hf hc =>
    rw [runOn_handle_of_reaches hr, runOn_handleRoute_signedIn ho ha, runOn_handleBody hf hc]

/-- **Nothing is done** for a request that asks for no call. -/
theorem after_handle (hn : ∀ route op, ¬ r.Asks request w route op) : ((r.handle setup request).runOn w).2 = w := by
  by_cases hr : ∃ route, r.Reaches request route
  · obtain ⟨route, hr⟩ := hr
    rw [runOn_handle_of_reaches hr]
    cases ho : route.isOpen with
    | true =>
      rw [runOn_handleRoute_open ho]
      cases hf : route.readFields request with
      | error issues => rw [runOn_handleBody_of_issues hf]
      | ok fields =>
        have hcalls (id : String) : route.Calls (RequestContext.ofHeaders request.headers request.client) id fields
            (route.operation request "" fields) := by
          rw [show route.operation request "" fields = route.operation request id fields by
            cases route <;> first | rfl | cases ho]
          exact Route.calls_operation hf
        exact absurd (.openly hr ho hf hcalls) (hn route _)
    | false =>
      cases ha : request.account? w with
      | none =>
        obtain hrun | ⟨f, hrun⟩ := runOn_handleRoute_signedOut ho ha
        · rw [hrun]
        · rw [hrun]
      | some account =>
        rw [runOn_handleRoute_signedIn ho ha]
        cases hf : route.readFields request with
        | error issues => rw [runOn_handleBody_of_issues hf]
        | ok fields => exact absurd (.signedIn hr ho ha hf (Route.calls_operation hf)) (hn route _)
  · exact after_handle_of_unreached (fun route h => hr ⟨route, h⟩) w

end Router

/-! ## Requests of a session -/

section
open RecordStore
variable [RecordStore S] [LocalStore S] {w v : World S} {context : RequestContext} {id : String} {route : Route}
  {op : Operation} {fields : List (String × String)}

/-- The call of a route that needs a session concerns the account of the session only. -/
theorem Route.Calls.isLocal (hc : route.Calls context id fields op) (ho : route.isOpen = false) :
    Local (S := S) id (op.perform setup) := by
  cases hc with
  | totpGenerate => exact .map _ (local_generateTotp id)
  | totpEnable code => exact .map _ (local_enableTotp id code)
  | totpDisable code => exact .map _ (local_disableTotp id code)
  | totpVerify code => exact .map _ (local_validateTotp id code)
  | backupGenerate => exact .map _ (local_generateBackup id)
  | backupVerify code => exact .map _ (local_verifyBackup id code)
  | smsInitiate number => exact .bind (local_initiate id number) fun _ => .ret _
  | smsVerify code => exact .map _ (local_verifyPhone id code)
  | smsEnable => exact .map _ (local_enableSms id)
  | smsDisable => exact .map _ (local_disableSms id)
  | login | verifyOtp | refresh | logout => cases ho

/-- What is done behind the guard of such a route concerns that account only. -/
theorem Router.local_handleBody (ho : route.isOpen = false) (request : Request) (id : String) :
    Local (S := S) id (handleBody setup request route id) := by
  unfold handleBody
  cases hf : route.readFields request with
  | error issues => exact .ofExcept _
  | ok fields =>
    intro w v h
    have hlocal : Local (S := S) id ((route.operation request id fields).perform setup) :=
      (Route.calls_operation hf).isLocal ho
    obtain ⟨hresult, hrest⟩ := hlocal w v h
    rw [runOn_answer, runOn_answer, hresult]
    exact ⟨rfl, hrest⟩

/-- The sample state with a session of its account. -/
def World.signedIn : World MemoryStore :=
  { World.sample with
    sessions := World.sample.sessions.put "refresh" ⟨Account.sample.view, "access", .epoch, .epoch⟩ }

end

end AccountSecurity
