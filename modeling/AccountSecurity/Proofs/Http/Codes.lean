import AccountSecurity.Proofs.Http.Handling
import AccountSecurity.Proofs.Service.BackupVault

/-!
# Codes that requests can submit

* `HandsOut` : the codes that the services hand out, each with a route on which it is submitted;
* `Request.Submits` : a request with a code in its body;
* `Router.unprocessable_iff` : a body that cannot be used is reported behind the guard only;
* `codes_can_be_submitted` : **which codes are taken**: all of the SMS factor and of authenticator apps, and backup
  codes under a bound that the router does not check.
-/

namespace AccountSecurity
open World

/-! ## Texts of digits -/

theorem Text.isDecimal_of_isDigit {c : Char} (h : c.isDigit) : isDecimal c := by
  have hvalue : decimalValue? c = some (c.toNat - 0x30) := by
    unfold decimalValue?
    rw [if_pos (toNat_lt_of_isDigit h), if_pos h]
  rw [isDecimal, hvalue]
  rfl

/-- A number below the bound is a code, with zeros in front. -/
theorem Pattern.accepts_padded {n : Nat} (h : n < 10 ^ requestCodeDigits) :
    Pattern.code.accepts (String.ofList (Text.padded requestCodeDigits n)) := by
  have hlength := Text.length_padded (by decide) h
  rw [accepts, String.length_ofList, String.toList_ofList, hlength, beq_self_eq_true, Bool.true_and]
  exact List.all_eq_true.2 fun c hc => Text.isDecimal_of_isDigit (Text.isDigit_of_mem_padded hc)

/-- The codes of authenticator apps. -/
theorem Totp.accepts_codeAt {config : TotpConfig} (h : config.digits = (requestCodeDigits : Int)) (key : List UInt8)
    (step : Nat) : Pattern.code.accepts (Totp.codeAt config key step) := by
  rw [codeAt, hotp, h, Int.toNat_natCast, lastDigits]
  exact Pattern.accepts_padded (Nat.mod_lt _ (by decide))

section
variable {S : Type} [AccountStore S] {setup : Setup} {config : OtpConfig} {w : World S}

omit [AccountStore S] in
/-- The codes that are sent by SMS. Every draw has one. -/
theorem OtpChallenge.runOn_drawCode (h : config.codeLength = (requestCodeDigits : Int)) (w : World S) :
    ∃ code, ((drawCode setup config).runOn w).1 = .ok code ∧ Pattern.code.accepts code := by
  have hlt : setup.sources.draws w.drawn % otpBound config.codeLength < 10 ^ requestCodeDigits := by
    rw [otpBound, h, Int.toNat_natCast]
    exact Nat.mod_lt _ (by decide)
  have hdrawn : drawnCode config.codeLength (setup.sources.draws w.drawn) = _ :=
    drawnCode_of_lt (by rw [h]; decide) (hlt.trans (Nat.pow_lt_pow_right (by decide) (by decide)))
  refine ⟨_, ?_, Pattern.accepts_padded hlt⟩
  rw [runOn_drawCode_eq, hdrawn, otpCode, h]
  rfl

/-- Backup codes have the length of the settings. -/
theorem BackupVault.length_generated (setup : Setup) (id : String) :
    Returns (S := S) (fun code => code.length = setup.backup.codeLength.toNat) (generate setup id) := by
  have hdraws : Returns (S := S) (fun draws => draws.length = setup.backup.codeLength.toNat)
      (drawMany setup setup.backup.codeLength.toNat) := by
    intro w draws hr
    rw [runOn_drawMany] at hr
    cases hr
    simp [nextDraws]
  unfold generate
  refine .bind fun a => ?_
  split
  · exact .refuse _
  split
  · exact .fail _
  split
  · next hfull =>
    rw [eq_of_makeRoom_error hfull]
    exact .refuse _
  · refine .bind_of hdraws fun draws hlength => .bind fun _ => .bind fun _ => .bind fun _ => .ret ?_
    rw [codeOf, String.length_ofList, List.length_map, hlength]

end

/-! ## Bodies with a code -/

/-- Backup codes have a length that requests can submit. -/
def BackupCodeConfig.Fits (config : BackupCodeConfig) : Prop :=
  1 ≤ config.codeLength ∧ config.codeLength ≤ (RequestModel.maxBackupCode : Int)

/-- The codes that the services hand out in a state, each with a route on which it is submitted. -/
inductive HandsOut {S : Type} [AccountStore S] (setup : Setup) (withSms : Bool) (w : World S) : Route → String → Prop
  | sms {config : OtpConfig} {route : Route} {code : String}
      (hconfig : config = setup.otp ∨ withSms ∧ config = setup.phoneOtp)
      (hroute : route = .verifyOtp ∨ route = .smsVerify)
      (h : ((OtpChallenge.drawCode setup config).runOn w).1 = .ok code) : HandsOut setup withSms w route code
  | totp {route : Route} (key : List UInt8) (step : Nat)
      (hroute : route = .totpEnable ∨ route = .totpDisable ∨ route = .totpVerify) :
      HandsOut setup withSms w route (Totp.codeAt setup.totp key step)
  | backup {id code : String} (h : ((BackupVault.generate setup id).runOn w).1 = .ok code) :
      HandsOut setup withSms w .backupVerify code

/-- A request submits a code: its body has the code, and the account where a login is finished. -/
def Request.Submits (request : Request) (route : Route) (code : String) : Prop :=
  ∃ body ∈ request.json?, body.field? "code" = some (.string code) ∧
    (route = .verifyOtp → ∃ id, id ≠ "" ∧ body.field? "account_id" = some (.string id))

/-- The rule for the codes that are submitted on a route. -/
def Route.codeRule? (route : Route) : Option Rule := route.model?.bind fun m => m.fields.lookup "code"

/-- A text that is not empty and not too long. -/
theorem Rule.issue?_upTo {limit : Nat} {s : String} :
    (upTo limit).issue? s = none ↔ 1 ≤ s.length ∧ s.length ≤ limit := by
  rw [issue?]
  split
  · next hempty => simp [hempty]
  · next hne =>
    have hpos : 1 ≤ s.length := Nat.pos_of_ne_zero fun h => hne (String.length_eq_zero_iff.1 h)
    split
    · simp only [reduceCtorEq, false_iff]
      omega
    · simp only [true_iff]
      omega

namespace RequestModel
variable {body : Json} {name s : String} {value : Json}

/-- A text that satisfies its rule is read. -/
theorem readField_of_field {rule : Rule} (h : body.field? name = some (.string s)) (hi : rule.issue? s = none) :
    readField body name rule = .ok s := by
  simp only [readField, h, hi]

/-- A text that breaks its rule is reported as it was found. -/
theorem readField_of_issue {rule : Rule} {i : Issue} (h : body.field? name = some (.string s))
    (hi : rule.issue? s = some i) : readField body name rule = .error ((i.under name).of (.string s)) := by
  simp only [readField, h, hi]

/-- A body with a field is an object. -/
theorem readBody_of_field (h : body.field? name = some value) (m : RequestModel) :
    m.readBody (some body) = (readFields body m.fields).mapError fun issues => issues.map (Issue.under "body") := by
  cases body with
  | object fields => rfl
  | _ => cases h

end RequestModel

namespace Route
variable {request : Request} {route : Route} {code : String} {rule : Rule}

/-- A code that is submitted is read, or it is what is wrong with the body. -/
theorem readFields_of_submits (hs : request.Submits route code) (hr : route.codeRule? = some rule) :
    (rule.issue? code = none ∧ ∃ fields, route.readFields request = .ok fields) ∨
      ∃ issue, rule.issue? code ≠ none ∧ issue.found = .string code ∧ route.readFields request = .error [issue] := by
  obtain ⟨body, hbody, hcode, hid⟩ := hs
  have hone {m : RequestModel} (hm : route.model? = some m) (hfields : m.fields = [("code", rule)]) :
      (rule.issue? code = none ∧ ∃ fields, route.readFields request = .ok fields) ∨
        ∃ issue, rule.issue? code ≠ none ∧ issue.found = .string code ∧ route.readFields request = .error [issue] := by
    rw [readFields, hm]
    dsimp only
    rw [hbody, RequestModel.readBody_of_field hcode, hfields, RequestModel.readFields]
    cases hi : rule.issue? code with
    | none => rw [RequestModel.readField_of_field hcode hi]; exact .inl ⟨rfl, _, rfl⟩
    | some i => rw [RequestModel.readField_of_issue hcode hi]; exact .inr ⟨_, Option.some_ne_none i, rfl, rfl⟩
  cases route with
  | verifyOtp =>
    obtain ⟨id, hne, hid⟩ := hid rfl
    cases hr
    have hfilled : Rule.nonempty.issue? id = none := if_neg hne
    rw [readFields, show verifyOtp.model? = some .smsOtpVerify from rfl]
    dsimp only
    rw [hbody, RequestModel.readBody_of_field hcode, RequestModel.fields, RequestModel.readFields,
      RequestModel.readFields, RequestModel.readField_of_field hid hfilled]
    cases hi : (Rule.pattern .code).issue? code with
    | none => rw [RequestModel.readField_of_field hcode hi]; exact .inl ⟨rfl, _, rfl⟩
    | some i => rw [RequestModel.readField_of_issue hcode hi]; exact .inr ⟨_, Option.some_ne_none i, rfl, rfl⟩
  | totpEnable | totpDisable | totpVerify | smsVerify => cases hr; exact hone (m := .code) rfl rfl
  | backupVerify => cases hr; exact hone (m := .backupCodeVerify) rfl rfl
  | _ => cases hr

end Route

/-! ## Codes that are handed out -/

section
variable {S : Type} [AccountStore S] {setup : Setup} {base : String} {withSms : Bool} {r : Router} {w : World S}
  {route : Route} {code : String}

/-- The length of the SMS codes under a router. -/
theorem Router.codeLength_of_eq_ok {config : OtpConfig} (hr : Router.of setup base withSms = .ok r)
    (hconfig : config = setup.otp ∨ withSms ∧ config = setup.phoneOtp) :
    config.codeLength = (requestCodeDigits : Int) := by
  obtain ⟨hlengths, -⟩ := Router.of_eq_ok hr
  obtain rfl | ⟨hsms, rfl⟩ := hconfig
  · exact hlengths ("OtpConfig.code_length", setup.otp.codeLength) (by simp [codeLengths])
  · exact hlengths ("OtpConfig.code_length", setup.phoneOtp.codeLength) (by simp [codeLengths, hsms])

theorem Router.digits_of_eq_ok (hr : Router.of setup base withSms = .ok r) :
    setup.totp.digits = (requestCodeDigits : Int) :=
  (Router.of_eq_ok hr).1 ("TotpConfig.digits", setup.totp.digits) (by simp [codeLengths])

/-- The rule of its route is satisfied by every code that is handed out, unless it is a backup code of a length that
does not fit. -/
theorem HandsOut.rule (hr : Router.of setup base withSms = .ok r) (h : HandsOut setup withSms w route code) :
    ∃ rule, route.codeRule? = some rule ∧
      (rule.issue? code = none ↔ (route = .backupVerify → setup.backup.Fits)) := by
  have hdigits (hcode : Pattern.code.accepts code) : (Rule.pattern .code).issue? code = none := if_pos hcode
  cases h with
  | sms hconfig hroute h =>
    obtain ⟨code', hdrawn, hcode⟩ := OtpChallenge.runOn_drawCode (Router.codeLength_of_eq_ok hr hconfig) w
    cases Except.ok.inj (hdrawn.symm.trans h)
    obtain rfl | rfl := hroute
    · exact ⟨_, rfl, by simp [hdigits hcode]⟩
    · exact ⟨_, rfl, by simp [hdigits hcode]⟩
  | totp key step hroute =>
    have hcode := Totp.accepts_codeAt (Router.digits_of_eq_ok hr) key step
    obtain rfl | rfl | rfl := hroute
    all_goals exact ⟨_, rfl, by simp [hdigits hcode]⟩
  | @backup id code h =>
    have hlength := BackupVault.length_generated setup id w code h
    refine ⟨_, rfl, Rule.issue?_upTo.trans ?_⟩
    rw [hlength, BackupCodeConfig.Fits]
    simp only [forall_true_left]
    omega

end

/-! ## Answers to submitted codes -/

/-- No refusal of a service is an answer to a body that cannot be used. -/
theorem SecurityError.status_ne (e : SecurityError) : e.status ≠ 422 := by
  rw [status, ErrorClass.status]
  split <;> decide

theorem Route.Answers.status_ne {route : Route} {result : Except Failure Reply} {response : Response}
    (h : route.Answers result (.ok response)) : response.status ≠ 422 := by
  cases h with
  | given hgives => exact nofun
  | refused e => exact e.status_ne

section
variable {S : Type} [AccountStore S] {setup : Setup} {r : Router} {request : Request} {route : Route}

/-- Behind the guard, a body is reported as one that cannot be used if it could not be read. -/
theorem Router.handleBody_unprocessable_iff (id : String) (v : World S) :
    (∃ response, (handleBody setup request route id).outcome v = .ok response ∧ response.status = 422) ↔
      ∃ issues, route.readFields request = .error issues ∧ issues.all (·.found.isFinite) := by
  cases hf : route.readFields request with
  | error issues =>
    rw [Action.outcome, runOn_handleBody_of_issues hf]
    unfold Response.ofIssues
    cases hall : issues.all (·.found.isFinite) with
    | true => exact ⟨fun _ => ⟨issues, rfl, hall⟩, fun _ => ⟨_, rfl, rfl⟩⟩
    | false =>
      constructor
      · rintro ⟨_, hresponse, -⟩
        cases hresponse
      · rintro ⟨_, heq, hfinite⟩
        cases heq
        cases hall.symm.trans hfinite
  | ok fields =>
    have hc : route.Calls _ id fields _ := Route.calls_operation hf
    simp only [reduceCtorEq, false_and, exists_false, iff_false]
    rintro ⟨response, hresponse, hstatus⟩
    rw [Action.outcome, runOn_handleBody hf hc] at hresponse
    have hanswers : route.Answers ((route.operation request id fields).run setup v).1 (.ok response) :=
      hresponse ▸ hc.answers v
    exact hanswers.status_ne hstatus

/-- **The guard comes first**: a body that cannot be used is reported to clients that pass it only. -/
theorem Router.unprocessable_iff (hr : r.Reaches request route) (v : World S) :
    (∃ response, (r.handle setup request).outcome v = .ok response ∧ response.status = 422) ↔
      (route.isOpen ∨ (request.account? v).isSome) ∧
        ∃ issues, route.readFields request = .error issues ∧ issues.all (·.found.isFinite) := by
  rw [Action.outcome, runOn_handle_of_reaches hr]
  cases ho : route.isOpen with
  | true =>
    rw [runOn_handleRoute_open ho, ← Action.outcome, handleBody_unprocessable_iff]
    simp
  | false =>
    cases ha : request.account? v with
    | some account =>
      rw [runOn_handleRoute_signedIn ho ha, ← Action.outcome, handleBody_unprocessable_iff]
      simp
    | none =>
      obtain hrun | ⟨f, hrun⟩ := runOn_handleRoute_signedOut ho ha
      · rw [hrun]
        simp [Response.notAuthenticated, Response.detail]
      · rw [hrun]
        simp

end

/-! ## Which codes are taken -/

section
variable {S : Type} [AccountStore S] {setup : Setup} {base : String} {withSms : Bool} {r : Router}

/-- **Which codes are taken.** Under every router each draw has an SMS code. A code that is handed out is read from the
body of a request that submits it on its route, and a request with it is never answered as one that cannot be used; only
backup codes that do not fit are not read, and are answered so behind the guard. -/
theorem codes_can_be_submitted (hr : Router.of setup base withSms = .ok r) (w : World S) :
    (∀ config, config = setup.otp ∨ withSms ∧ config = setup.phoneOtp →
      ∃ code, ((OtpChallenge.drawCode setup config).runOn w).1 = .ok code) ∧
    ∀ route code, HandsOut setup withSms w route code → ∀ request : Request, request.Submits route code →
      ((∃ fields, route.readFields request = .ok fields) ↔ (route = .backupVerify → setup.backup.Fits)) ∧
      ∀ v : World S, r.Reaches request route →
        ((∃ response, (r.handle setup request).outcome v = .ok response ∧ response.status = 422) ↔
          route = .backupVerify ∧ ¬ setup.backup.Fits ∧ (request.account? v).isSome) := by
  refine ⟨fun config hconfig => ?_, fun route code hhands request hsubmits => ?_⟩
  · obtain ⟨code, hcode, -⟩ := OtpChallenge.runOn_drawCode (Router.codeLength_of_eq_ok hr hconfig) w
    exact ⟨code, hcode⟩
  · obtain ⟨rule, hrule, hnone⟩ := hhands.rule hr
    obtain ⟨hgood, fields, hread⟩ | ⟨issue, hbad, hfound, hread⟩ := Route.readFields_of_submits hsubmits hrule
    · have hfits := hnone.1 hgood
      refine ⟨⟨fun _ => hfits, fun _ => ⟨fields, hread⟩⟩, fun v hreach => ?_⟩
      rw [Router.unprocessable_iff hreach, hread]
      simp only [reduceCtorEq, false_and, exists_false, and_false, false_iff]
      rintro ⟨hroute, hno, -⟩
      exact hno (hfits hroute)
    · have hlong : route = .backupVerify ∧ ¬ setup.backup.Fits := Classical.not_imp.1 (mt hnone.2 hbad)
      obtain ⟨rfl, hno⟩ := hlong
      refine ⟨⟨fun hok => ?_, fun hfits => absurd (hfits rfl) hno⟩, fun v hreach => ?_⟩
      · obtain ⟨fields, hfields⟩ := hok
        cases hread.symm.trans hfields
      · rw [Router.unprocessable_iff hreach, hread]
        simp [Route.isOpen, hno, hfound, Json.isFinite]

end

/-- The code that is sent at a login is submitted. -/
theorem codes_can_be_submitted_login :
    let request : Request :=
      { path := "/auth/login/verify-otp"
        body := some (.object [("account_id", .string "1"), ("code", .string "000000")]) }
    ∃ r, Router.of Setup.sample "/auth" true = .ok r ∧ HandsOut Setup.sample true World.signedIn .verifyOtp "000000" ∧
      request.Submits .verifyOtp "000000" ∧ r.Reaches request .verifyOtp ∧
      ¬ ∃ response, (r.handle Setup.sample request).outcome World.signedIn = .ok response ∧ response.status = 422 := by
  intro request
  have hplain : PathTemplate.IsPlain "/auth".toList := by decide
  obtain ⟨r, hr⟩ : ∃ r, Router.of Setup.sample "/auth" true = .ok r :=
    Router.exists_of_plain (by decide) hplain (by decide)
  have hreach : r.Reaches request .verifyOtp :=
    ⟨by decide, (Router.endpoint?_eq_route hplain hr).2 ⟨.inl rfl, rfl, .inl (by decide)⟩⟩
  have hhands : HandsOut Setup.sample true World.signedIn .verifyOtp "000000" := .sms (.inl rfl) (.inl rfl) (by rfl)
  have hsubmits : request.Submits .verifyOtp "000000" := ⟨_, rfl, rfl, fun _ => ⟨"1", by decide, rfl⟩⟩
  obtain ⟨-, hcodes⟩ := codes_can_be_submitted hr World.signedIn
  obtain ⟨-, hanswer⟩ := hcodes _ _ hhands request hsubmits
  refine ⟨r, hr, hhands, hsubmits, hreach, fun hunusable => ?_⟩
  cases ((hanswer World.signedIn hreach).1 hunusable).1

/-- A router takes settings under which backup codes have 65 characters. Such a code is made, and cannot be used by the
client that got it. -/
theorem long_backup_code_is_unusable :
    let setup : Setup := { Setup.sample with backup := { codeLength := 65 } }
    let enabled : Account :=
      { Account.sample with credentials := { Account.sample.credentials with totpEnabled := true } }
    let w : World MemoryStore :=
      { World.signedIn with
        store := { World.signedIn.store with accounts := World.signedIn.store.accounts.put "1" enabled } }
    let code := BackupVault.codeOf (List.range 65)
    let request : Request :=
      { path := "/auth/backup-codes/verify", headers := [("Authorization", "Bearer access")]
        body := some (.object [("code", .string code)]) }
    ∃ r, Router.of setup "/auth" true = .ok r ∧ HandsOut setup true w .backupVerify code ∧
      request.Submits .backupVerify code ∧ r.Reaches request .backupVerify ∧
      ∃ response, (r.handle setup request).outcome ((BackupVault.generate setup "1").after w) = .ok response ∧
        response.status = 422 := by
  intro setup enabled w code request
  have hplain : PathTemplate.IsPlain "/auth".toList := by decide
  obtain ⟨r, hr⟩ : ∃ r, Router.of setup "/auth" true = .ok r :=
    Router.exists_of_plain (by decide) hplain (by decide)
  have hreach : r.Reaches request .backupVerify :=
    ⟨by decide +kernel, (Router.endpoint?_eq_route hplain hr).2 ⟨.inl rfl, rfl, .inl (by decide)⟩⟩
  have hmade : ((BackupVault.generate setup "1").runOn w).1 = .ok code := by decide +kernel
  have hsigned : (request.account? ((BackupVault.generate setup "1").after w)).isSome := by decide +kernel
  have hsubmits : request.Submits .backupVerify code := ⟨_, rfl, rfl, nofun⟩
  refine ⟨r, hr, .backup hmade, hsubmits, hreach, (Router.unprocessable_iff hreach _).2 ⟨.inr hsigned, ?_⟩⟩
  obtain ⟨hgood, -⟩ | ⟨issue, -, hfound, hread⟩ := Route.readFields_of_submits hsubmits rfl
  · exact absurd hgood (by decide +kernel)
  · exact ⟨_, hread, by simp [hfound, Json.isFinite]⟩

end AccountSecurity
