import AccountSecurity.Proofs.OtpHistory
import Mathlib.Data.Finset.Card
import Mathlib.Data.Finset.Range
import Mathlib.Data.List.Induction

/-!
# Where sessions come from

No session is open without the password of its account, and none without a code by SMS where the account asks for
one.

* `Entry.Trades`, `trades_step` : what an entry did to the open sessions;
* `Rooted`, `Sessions.count` : sessions that go back to a login, and their number;
* `Entry.authenticated?` : the account of a login that found lock, password and address in order;
* `Backs`, `exists_backs` : the login behind a session, and the code that links the two;
* `sessions_backed` : **every session has its own login.**
-/

namespace AccountSecurity
open World Login

/-- The tokens and the account of a login that came to its end. -/
def opened? : Except Failure Reply → Option (TokenSet × AccountView)
  | .ok (.loggedIn tokens account) => some (tokens, account)
  | _ => none

variable {S : Type}

/-! ## Trade in sessions -/

/-- What an entry did to the open sessions: nothing, or a login opened one, or one was closed, or exchanged for
another of the same account. -/
inductive Entry.Trades (e : Entry S) : Prop
  | kept (hr : opened? e.result = none) (hs : e.after.sessions = e.before.sessions)
  | opened {tokens : TokenSet} {s : Session} (hr : opened? e.result = some (tokens, s.account))
      (hs : e.after.sessions = e.before.sessions.put tokens.refreshToken s)
  | closed (token : String) (hr : opened? e.result = none) (hs : e.after.sessions = e.before.sessions.erase token)
  | exchanged {token : String} {c : Option RequestContext} {tokens : TokenSet} {s s' : Session}
      (hstep : e.step = .call (.refresh token c)) (hr : e.result = .ok (.tokens tokens))
      (hget : e.before.sessions.get? token = some s) (ha : s'.account = s.account)
      (hs : e.after.sessions = (e.before.sessions.erase token).put tokens.refreshToken s')

/-- A refresh token that goes back, through exchanges, to the login at a position of a run. -/
inductive Descends : List (Entry S) → Nat → String → Prop
  | opened {es : List (Entry S)} {e : Entry S} {tokens : TokenSet} {account : AccountView}
      (hr : opened? e.result = some (tokens, account)) : Descends (es ++ [e]) es.length tokens.refreshToken
  | exchanged {es : List (Entry S)} {e : Entry S} {n : Nat} {token : String} {c : Option RequestContext}
      {tokens : TokenSet} (h : Descends es n token) (hstep : e.step = .call (.refresh token c))
      (hr : e.result = .ok (.tokens tokens)) : Descends (es ++ [e]) n tokens.refreshToken
  | kept {es : List (Entry S)} {e : Entry S} {n : Nat} {token : String} (h : Descends es n token) :
      Descends (es ++ [e]) n token

/-- A session goes back to a login of its account. -/
def Rooted (es : List (Entry S)) (token : String) (s : Session) : Prop :=
  ∃ (n : Nat) (e : Entry S) (tokens : TokenSet), es[n]? = some e ∧ opened? e.result = some (tokens, s.account) ∧
    Descends es n token

theorem Rooted.kept {es : List (Entry S)} {token : String} {s : Session} (h : Rooted es token s) (e : Entry S) :
    Rooted (es ++ [e]) token s := by
  obtain ⟨n, l, tokens, hl, hr, hd⟩ := h
  exact ⟨n, l, tokens, by rw [List.getElem?_append_left (List.getElem?_eq_some_iff.1 hl).1, hl], hr, hd.kept⟩

/-- The entry opened a session of the account. -/
def Entry.opens (id : String) (e : Entry S) : Bool := (opened? e.result).any fun p => p.2.id = id

theorem Entry.opens_iff {e : Entry S} {id : String} :
    e.opens id ↔ ∃ p, opened? e.result = some p ∧ p.2.id = id := by
  rw [opens, Option.any_eq_true]
  simp only [decide_eq_true_eq]

/-- The number of open sessions of an account. -/
def Sessions.count (id : String) (t : Sessions) : Nat := t.entries.countP fun p => p.2.account.id = id

theorem Sessions.count_put_le (id : String) (t : Sessions) (token : String) (s : Session) :
    count id (t.put token s) ≤ count id t + if s.account.id = id then 1 else 0 := by
  unfold count Table.put
  induction t.entries with
  | nil => simp [Table.putEntry, List.countP_cons]
  | cons p rest ih =>
    obtain ⟨k, x⟩ := p
    unfold Table.putEntry
    split
    · simp only [List.countP_cons, decide_eq_true_eq]
      omega
    · simp only [List.countP_cons, decide_eq_true_eq] at ih ⊢
      omega

theorem Sessions.count_erase_le (id : String) (t : Sessions) (token : String) : count id (t.erase token) ≤ count id t :=
  List.Sublist.countP_le List.filter_sublist

/-- Closing a session makes one less. -/
theorem Sessions.count_erase_lt {id token : String} {t : Sessions} {s : Session} (hs : t.get? token = some s)
    (hid : s.account.id = id) : count id (t.erase token) + 1 ≤ count id t := by
  obtain ⟨entries⟩ := t
  show (entries.filter fun p => p.1 != token).countP (fun p => p.2.account.id = id) + 1 ≤
    entries.countP fun p => p.2.account.id = id
  change entries.lookup token = some s at hs
  induction entries with
  | nil => cases hs
  | cons p rest ih =>
    obtain ⟨k, x⟩ := p
    rw [Table.lookup_cons] at hs
    by_cases hk : k = token
    · rw [if_pos hk] at hs
      cases hs
      have hrest : (rest.filter fun p => p.1 != token).countP (fun p => p.2.account.id = id) ≤
          rest.countP fun p => p.2.account.id = id := List.Sublist.countP_le List.filter_sublist
      simpa [hk, hid] using hrest
    · rw [if_neg hk] at hs
      have := ih hs
      simp only [List.filter_cons, bne_iff_ne, ne_eq, hk, not_false_eq_true, if_true, List.countP_cons] at this ⊢
      omega

/-- No step opens more sessions of an account than logins of the account come to their end. -/
theorem Entry.Trades.count_le {e : Entry S} (h : e.Trades) (id : String) :
    e.after.sessions.count id ≤ e.before.sessions.count id + if e.opens id then 1 else 0 := by
  cases h with
  | kept hr hs => rw [hs]; omega
  | @opened tokens s hr hs =>
    have := Sessions.count_put_le id e.before.sessions tokens.refreshToken s
    rw [hs]
    simpa [opens, hr] using this
  | closed token hr hs =>
    have := Sessions.count_erase_le id e.before.sessions token
    rw [hs]
    omega
  | @exchanged token c tokens s s' hstep hr hget ha hs =>
    have hput := Sessions.count_put_le id (e.before.sessions.erase token) tokens.refreshToken s'
    rw [hs]
    by_cases hid : s.account.id = id
    · have := Sessions.count_erase_lt hget hid
      rw [ha, if_pos hid] at hput
      omega
    · have := Sessions.count_erase_le id e.before.sessions token
      rw [ha, if_neg hid] at hput
      omega

/-- Sessions go back to logins after a step as before. -/
theorem Entry.Trades.rooted {e : Entry S} (h : e.Trades) {es : List (Entry S)}
    (hes : ∀ token s, e.before.sessions.get? token = some s → Rooted es token s) {token : String} {s : Session}
    (hs : e.after.sessions.get? token = some s) : Rooted (es ++ [e]) token s := by
  cases h with
  | kept hr ht => exact (hes token s (ht ▸ hs)).kept e
  | @opened tokens s' hr ht =>
    rw [ht, Table.get?_put] at hs
    by_cases hk : tokens.refreshToken = token
    · rw [if_pos hk] at hs
      cases hs
      exact ⟨es.length, e, tokens, by rw [List.getElem?_append_right (Nat.le_refl _), Nat.sub_self]; rfl, hr,
        hk ▸ .opened hr⟩
    · rw [if_neg hk] at hs
      exact (hes token s hs).kept e
  | closed old hr ht =>
    rw [ht, Table.get?_erase] at hs
    split at hs
    · cases hs
    · exact (hes token s hs).kept e
  | @exchanged old c tokens s₀ s' hstep hr hget ha ht =>
    rw [ht, Table.get?_put, Table.get?_erase] at hs
    by_cases hk : tokens.refreshToken = token
    · rw [if_pos hk] at hs
      cases hs
      obtain ⟨n, l, first, hl, hlr, hd⟩ := hes old s₀ hget
      refine ⟨n, l, first, ?_, ha ▸ hlr, hk ▸ hd.exchanged hstep hr⟩
      rw [List.getElem?_append_left (List.getElem?_eq_some_iff.1 hl).1, hl]
    · rw [if_neg hk] at hs
      split at hs
      · cases hs
      · exact (hes token s hs).kept e

/-! ## Logins -/

variable [AccountStore S]

/-- The account of a login that was not locked, got the right password and has a verified address. -/
def Entry.authenticated? (e : Entry S) : Option Account :=
  e.loginOf?.bind fun (a, password) =>
    if a.credentials.isLocked e.before.clock = false ∧
        (Hasher.verify a.credentials.passwordHash password).toOption = some true ∧ a.credentials.emailVerified then
      some a
    else none

theorem Entry.authenticated?_eq_some {e : Entry S} {a : Account} :
    e.authenticated? = some a ↔ ∃ password, e.loginOf? = some (a, password) ∧
      a.credentials.isLocked e.before.clock = false ∧
      Hasher.verify a.credentials.passwordHash password = .ok true ∧ a.credentials.emailVerified := by
  have hok : ∀ x : Except Failure Bool, x.toOption = some true ↔ x = .ok true := by
    intro x
    cases x <;> simp [Except.toOption]
  unfold authenticated?
  rw [Option.bind_eq_some_iff]
  constructor
  · rintro ⟨⟨b, password⟩, hl, hb⟩
    dsimp only at hb
    split at hb
    · next hc =>
      cases hb
      exact ⟨password, hl, hc.1, (hok _).1 hc.2.1, hc.2.2⟩
    · cases hb
  · rintro ⟨password, hl, hlock, hv, he⟩
    exact ⟨(a, password), hl, if_pos ⟨hlock, (hok _).2 hv, he⟩⟩

variable [LawfulStore S] {setup : Setup} {w v : World S} {a : Account}

/-- A call whose replies say nothing of a session opens none. -/
theorem opened?_map {α : Type} {f : α → Reply} (hf : ∀ r, opened? (.ok (f r)) = none) (x : Except Failure α) :
    opened? (x.map f) = none := by
  cases x with
  | error e => rfl
  | ok r => exact hf r

omit [AccountStore S] [LawfulStore S] in
theorem opened?_reply {α : Type} {f : α → Reply} (hf : ∀ r, opened? (.ok (f r)) = none) (x : Op S α) (v : World S) :
    opened? ((f <$> x).runOn v).1 = none := by
  rw [Action.runOn_map]
  exact opened?_map hf _

/-- Opening a session gives its tokens, or fails and opens none. -/
theorem opened?_complete (setup : Setup) (h : v.Sound) (a : Account) (c : Option RequestContext) :
    ((∃ f, ((complete setup a c).runOn v).1 = .error f) ∧
      ((complete setup a c).runOn v).2.sessions = v.sessions) ∨
    ∃ tokens s, ((complete setup a c).runOn v).1 = .ok (tokens, a.view) ∧ s.account = a.view ∧
      ((complete setup a c).runOn v).2.sessions = v.sessions.put tokens.refreshToken s := by
  rw [runOn_complete h]
  cases hn : TokenIssuer.nextSession? setup a.view v with
  | none => exact .inl ⟨⟨_, rfl⟩, rfl⟩
  | some s => exact .inr ⟨_, s, rfl, TokenIssuer.account_of_nextSession hn, rfl⟩

/-- A login opens a session for an account that asks for no code, or issues a code for one that does, after the
right password; or it does neither. -/
theorem opened?_login (setup : Setup) (h : v.Sound) (identifier password : String) (c : Option RequestContext) :
    (opened? ((Operation.login identifier password c).run setup v).1 = none ∧
      ((Operation.login identifier password c).run setup v).2.sessions = v.sessions ∧
      (hasStored ((Operation.login identifier password c).run setup v).1 →
        ∃ a, (Entry.of setup (.call (.login identifier password c)) v).authenticated? = some a ∧
          smsActive a.credentials)) ∨
    ∃ a tokens s, (Entry.of setup (.call (.login identifier password c)) v).authenticated? = some a ∧
      smsActive a.credentials = false ∧
      opened? ((Operation.login identifier password c).run setup v).1 = some (tokens, a.view) ∧ s.account = a.view ∧
      ((Operation.login identifier password c).run setup v).2.sessions = v.sessions.put tokens.refreshToken s := by
  have hends := ends_login setup h identifier password c
  have hno : hasStored ((Operation.login identifier password c).run setup v).1 = false →
      hasStored ((Operation.login identifier password c).run setup v).1 →
        ∃ a, (Entry.of setup (.call (.login identifier password c)) v).authenticated? = some a ∧
          smsActive a.credentials := fun hf ht => (Bool.false_ne_true (hf.symm.trans ht)).elim
  -- a login that passed the password and the check of the address
  have hauth : ∀ {a newHash}, Admitted setup identifier password v a newHash → a.credentials.emailVerified →
      (Entry.of setup (.call (.login identifier password c)) v).authenticated? = some a := fun hc he =>
    Entry.authenticated?_eq_some.2 ⟨password, by simp [Entry.loginOf?, hc.found], hc.unlocked, hc.verdict, he⟩
  rw [Operation.run_login setup h] at hno ⊢
  generalize (login setup identifier password c).runOn v = r at hends hno ⊢
  cases hends with
  | broken hf hl hx => exact .inl ⟨rfl, rfl, hno (hasStored_error hx)⟩
  | @challenged a newHash n hc he hs hn =>
    refine .inl ⟨?_, Operation.sessions_issue (hc.sound h) .., fun _ => ⟨a, hauth hc he, hs⟩⟩
    rw [Operation.map_map]
    exact opened?_map (fun _ => rfl) _
  | @opened a newHash hc he hs =>
    have hst := (hasStored_complete setup (hc.sound h) a c).2
    obtain ⟨⟨f, hr⟩, hses⟩ | ⟨tokens, s, hr, hacc, hses⟩ := opened?_complete setup (hc.sound h) a c
    · dsimp only at hno ⊢
      rw [hr] at hst hno ⊢
      exact .inl ⟨rfl, hses, hno hst⟩
    · dsimp only
      rw [hr]
      exact .inr ⟨a, tokens, s, hauth hc he, hs, rfl, hacc, hses⟩
  | _ => exact .inl ⟨rfl, rfl, hno rfl⟩

/-- The SMS step opens a session when the code is accepted, or none. -/
theorem opened?_finish (setup : Setup) (h : v.Sound) (id code : String) (c : Option RequestContext) :
    (opened? ((Operation.finishLogin id code c).run setup v).1 = none ∧
      ((Operation.finishLogin id code c).run setup v).2.sessions = v.sessions) ∨
    ∃ a tokens s, ((OtpChallenge.verify setup id code .loginChallenge).runOn v).1 = .ok a ∧
      opened? ((Operation.finishLogin id code c).run setup v).1 = some (tokens, a.view) ∧ s.account = a.view ∧
      ((Operation.finishLogin id code c).run setup v).2.sessions = v.sessions.put tokens.refreshToken s := by
  have hses : ((OtpChallenge.verify setup id code .loginChallenge).runOn v).2.sessions = v.sessions :=
    Operation.sessions_verify h ..
  rw [Operation.run_finishLogin setup h, runOn_finish h]
  rcases hr : (OtpChallenge.verify setup id code .loginChallenge).runOn v with ⟨f | a, u⟩
  · rw [hr] at hses
    exact .inl ⟨rfl, hses⟩
  · rw [hr] at hses
    obtain ⟨hv, hb, -⟩ := OtpChallenge.account?_of_verify_ok h hr
    have hu := hv.changed hb (storable_lastLogin h.clock)
    dsimp only
    obtain ⟨⟨f, hf⟩, hs⟩ | ⟨tokens, s, hf, hacc, hs⟩ := opened?_complete setup hu a c
    · rw [hf, hs]
      exact .inl ⟨rfl, hses⟩
    · rw [hf, hs]
      exact .inr ⟨a, tokens, s, rfl, rfl, hacc, congrArg (·.put tokens.refreshToken s) hses⟩

/-! ## Every step -/

omit [LawfulStore S] in
/-- The calls that are not about sessions open none. -/
theorem opened?_run (op : Operation) (hk : op.keepsSessions) : opened? (op.run setup v).1 = none := by
  cases op with
  | login => cases hk
  | finishLogin => cases hk
  | refresh => cases hk
  | logout => cases hk
  | issueOtp id purpose number => rw [Operation.run_issueOtp]; exact opened?_map (fun _ => rfl) _
  | clearOtp id => rw [Operation.run_clearOtp]; exact opened?_map (fun _ => rfl) _
  | initiatePhone id number => rw [Operation.run_initiatePhone]; exact opened?_map (fun _ => rfl) _
  | verifyPhone id code => rw [Operation.run_verifyPhone]; exact opened?_map (fun _ => rfl) _
  | verifyOtp id code purpose => rw [Operation.run_verifyOtp]; exact opened?_map (fun _ => rfl) _
  | register r => exact opened?_reply (f := .view) (fun _ => rfl) _ v
  | generateTotp id => exact opened?_reply (f := .enrollment) (fun _ => rfl) _ v
  | generateBackup id => exact opened?_reply (f := .backupCode) (fun _ => rfl) _ v
  | remainingBackup id => exact opened?_reply (f := .count) (fun _ => rfl) _ v
  | _ => exact opened?_reply (f := .flag) (fun _ => rfl) _ v

/-- Exchanging a token closes its session, and opens another of the same account while it is in time. -/
theorem trades_refresh (h : v.Sound) (token : String) (c : Option RequestContext) :
    (Entry.of setup (.call (.refresh token c)) v).Trades := by
  have hrun : (Entry.of setup (.call (.refresh token c)) v).result =
        ((refresh setup token c).runOn v).1.map .tokens ∧
      (Entry.of setup (.call (.refresh token c)) v).after = ((refresh setup token c).runOn v).2 :=
    Prod.ext_iff.1 (Operation.run_refresh setup h token c)
  rw [runOn_loginRefresh h, TokenIssuer.runOn_refresh h] at hrun
  by_cases ht : token = ""
  · rw [if_pos ht] at hrun
    exact .kept (by rw [hrun.1]; rfl) (by rw [hrun.2]; rfl)
  · rw [if_neg ht] at hrun
    cases hget : v.sessions.get? token with
    | none =>
      rw [hget] at hrun
      exact .closed token (by rw [hrun.1]; rfl) (by rw [hrun.2]; rfl)
    | some s =>
      rw [hget] at hrun
      dsimp only at hrun
      by_cases he : s.refreshExpiresAt.before v.clock
      · rw [if_pos he] at hrun
        exact .closed token (by rw [hrun.1]; rfl) (by rw [hrun.2]; rfl)
      · rw [if_neg he] at hrun
        cases hn : TokenIssuer.nextSession? setup s.account v with
        | none =>
          rw [hn] at hrun
          exact .closed token (by rw [hrun.1]; rfl) (by rw [hrun.2]; rfl)
        | some s' =>
          rw [hn] at hrun
          exact .exchanged rfl hrun.1 hget (TokenIssuer.account_of_nextSession hn) (by rw [hrun.2]; rfl)

/-- **Sessions** are opened by logins, exchanged by refreshes, closed, or left alone. -/
theorem trades_step (h : v.Sound) (s : Step) : (Entry.of setup s v).Trades := by
  cases s with
  | clock now => exact .kept rfl rfl
  | outage o => exact .kept rfl rfl
  | confirmEmail id =>
    refine .kept ?_ ?_
    · rw [Entry.of_result]
      exact opened?_map (fun _ => rfl) _
    · rw [Entry.of_after, Entry.of_before, run_confirmEmail h]
      cases v.account? id <;> rfl
  | call op =>
    by_cases hk : op.keepsSessions
    · exact .kept (opened?_run op hk) (Operation.sessions_run h op hk)
    · cases op with
      | login identifier password c =>
        obtain ⟨hr, hs, -⟩ | ⟨a, tokens, s, -, -, hr, ha, hs⟩ := opened?_login setup h identifier password c
        · exact .kept hr hs
        · exact .opened (ha ▸ hr) hs
      | finishLogin id code c =>
        obtain ⟨hr, hs⟩ | ⟨a, tokens, s, -, hr, ha, hs⟩ := opened?_finish setup h id code c
        · exact .kept hr hs
        · exact .opened (ha ▸ hr) hs
      | refresh token c => exact trades_refresh h token c
      | logout token c =>
        have hrun := Operation.run_logout setup h token c
        rw [runOn_logout h] at hrun
        refine .closed token ?_ ?_
        · rw [Entry.of_result]
          show opened? ((Operation.logout token c).run setup v).1 = none
          rw [hrun]
          rfl
        · rw [Entry.of_after]
          show ((Operation.logout token c).run setup v).2.sessions = _
          rw [hrun]
          rfl
      | _ => exact absurd rfl hk

/-! ## The login behind a session -/

variable {id : String} {es : List (Entry S)}

/-- The login `l` of `a`, at a position, stands behind the session that `e` opened at `i`. It opened the session itself
where the account asks for no code; else it issued the code that `e` took, and no entry in between wrote to the slot of
the account. -/
structure Backs (setup : Setup) (es : List (Entry S)) (i k : Nat) (e l : Entry S) (a : Account) : Prop where
  login : es[k]? = some l
  authenticated : l.authenticated? = some a
  account : ∀ p ∈ opened? e.result, p.2.id = a.id
  direct : smsActive a.credentials = false → k = i
  code : smsActive a.credentials → k < i ∧ ∃ o c, l.otpWrite? setup a.id = some (.issued o) ∧
    o.purpose = .loginChallenge ∧ e.step = .call (.finishLogin a.id o.code c)
  unused : ∀ m x, k < m → m < i → es[m]? = some x → x.otpWrite? setup a.id = none

omit [LawfulStore S] in
theorem hasStored_of_opened {r : Except Failure Reply} (h : (opened? r).isSome) : hasStored r = false := by
  unfold opened? at h
  split at h
  · rfl
  · cases h

omit [LawfulStore S] in
/-- The SMS step that opens a session empties the slot. -/
theorem otpWrite?_of_finished {e : Entry S} {code : String} {c : Option RequestContext}
    (hstep : e.step = .call (.finishLogin id code c)) (hr : (opened? e.result).isSome) :
    e.otpWrite? setup id = some .emptied := by
  have hem : hasEmptied e.result := by
    unfold opened? at hr
    split at hr
    · next heq => rw [heq]; rfl
    · cases hr
  unfold Entry.otpWrite?
  rw [hstep]
  simp [Operation.issuer?, Operation.emptier?, Operation.check?, hem]

/-- A pending code of a login was issued by a login with the right password, if no one else issues such codes. -/
theorem login_of_issued {e : Entry S} (h : e.before.Sound) (he : e = Entry.of setup e.step e.before)
    (hno : ∀ id purpose number, e.step ≠ .call (.issueOtp id purpose number)) {o : IssuedOtp}
    (hw : e.otpWrite? setup id = some (.issued o)) (hp : o.purpose = .loginChallenge) :
    ∃ a, e.authenticated? = some a ∧ a.id = id ∧ smsActive a.credentials := by
  unfold Entry.otpWrite? at hw
  split at hw
  · next op hstep =>
    split at hw
    · next i purpose config hi =>
      split at hw
      · next hcond =>
        obtain ⟨x, hx, hxo⟩ := Option.map_eq_some_iff.1 hw
        cases hxo
        have hpurpose : purpose = .loginChallenge := by
          obtain ⟨code, -, rfl⟩ := Option.map_eq_some_iff.1 hx
          exact hp
        cases op with
        | login identifier password c =>
          obtain ⟨b, hb, hbi⟩ := Option.map_eq_some_iff.1 hi
          cases hbi
          rw [he, hstep] at hcond
          obtain ⟨-, -, hstored⟩ | ⟨a, tokens, s, -, -, hr, -⟩ := opened?_login setup h identifier password c
          · obtain ⟨a, ha, hsms⟩ := hstored hcond.2
            have hab : a = b := by
              obtain ⟨password', hl, -⟩ := Entry.authenticated?_eq_some.1 ha
              rw [Entry.loginOf?, Entry.of_step, Entry.of_before] at hl
              dsimp only at hl
              rw [hb] at hl
              cases hl
              rfl
            rw [he, hstep]
            exact ⟨a, ha, hab ▸ hcond.1, hsms⟩
          · have := hasStored_of_opened (Option.isSome_of_eq_some hr)
            exact nomatch this.symm.trans hcond.2
        | issueOtp id purpose number => exact absurd hstep (hno id purpose number)
        | initiatePhone id number =>
          cases hi
          cases hpurpose
        | _ => cases hi
      · cases hw
    · split at hw <;> cases hw
  · cases hw

omit [LawfulStore S] in
/-- The write that is in force was made by some entry, and no later one wrote. -/
theorem exists_of_lastOtpWrite? {x : OtpWrite} (h : lastOtpWrite? setup id es = some x) :
    ∃ pre l mid, es = pre ++ l :: mid ∧ l.otpWrite? setup id = some x ∧ ∀ y ∈ mid, y.otpWrite? setup id = none := by
  obtain ⟨mid, l, pre, hes, hl, hmid⟩ := List.findSome?_eq_some_iff.1 h
  refine ⟨pre.reverse, l, mid.reverse, ?_, hl, fun y hy => hmid y (List.mem_reverse.1 hy)⟩
  rw [← List.reverse_reverse es, hes]
  simp

/-- Only logins and their SMS steps give a session to a user. -/
theorem step_of_opened (h : v.Sound) {s : Step} (hs : (opened? (Entry.of setup s v).result).isSome) :
    (∃ identifier password c, s = .call (.login identifier password c)) ∨
      ∃ id code c, s = .call (.finishLogin id code c) := by
  have hno : ∀ {r : Except Failure Reply}, opened? r = none → ¬ (opened? r).isSome := fun hr hsome => by
    rw [hr] at hsome
    cases hsome
  cases s with
  | clock now => cases hs
  | outage o => cases hs
  | confirmEmail id => exact absurd hs (hno (opened?_map (fun _ => rfl) _))
  | call op =>
    by_cases hk : op.keepsSessions
    · exact absurd hs (hno (opened?_run op hk))
    · cases op with
      | login identifier password c => exact .inl ⟨identifier, password, c, rfl⟩
      | finishLogin id code c => exact .inr ⟨id, code, c, rfl⟩
      | refresh token c =>
        refine absurd hs (hno ?_)
        exact (congrArg (fun r => opened? r.1) (Operation.run_refresh setup h token c)).trans
          (opened?_map (fun _ => rfl) _)
      | logout token c =>
        refine absurd hs (hno ?_)
        exact (congrArg (fun r => opened? r.1) (Operation.run_logout setup h token c)).trans
          (opened?_map (fun _ => rfl) _)
      | _ => exact absurd rfl hk

/-- The code that the SMS step of a login accepts was issued by a login, and is still in force. -/
theorem Backs.of_verify (hw : w.Sound) (hempty : ∀ id a, w.account? id = some a → a.credentials.otp = {})
    (hr : Run setup w es v) (hno : ∀ e ∈ es, ∀ id purpose number, e.step ≠ .call (.issueOtp id purpose number))
    {i : Nat} {e : Entry S} (he : es[i]? = some e) {code : String} {c : Option RequestContext} {b : Account}
    {tokens : TokenSet} (hstep : e.step = .call (.finishLogin id code c))
    (hb : ((OtpChallenge.verify setup id code .loginChallenge).runOn e.before).1 = .ok b)
    (ho : opened? e.result = some (tokens, b.view)) : ∃ k l a, Backs setup es i k e l a := by
  obtain ⟨hpre, -⟩ := hr.split_at he
  have hsound := hpre.sound hw
  have hb' := (OtpChallenge.of_runOn_verify_ok hsound (Prod.ext hb rfl)).1
  obtain ⟨o, hlast, hp, rfl, -⟩ := (OtpChallenge.verify_ok_iff hsound hb' (slot_of_history hw hempty hpre id) code
    .loginChallenge).1 ⟨b, hb⟩
  obtain ⟨pre, l, mid, hes, hl, hmid⟩ := exists_of_lastOtpWrite? hlast
  have hlen : pre.length < i := by
    have := congrArg List.length hes
    rw [List.length_take, List.length_append, List.length_cons] at this
    omega
  have hat : ∀ m, m < i → es[m]? = (pre ++ l :: mid)[m]? := fun m hm => by
    rw [← hes, List.getElem?_take, if_pos hm]
  have hkl : es[pre.length]? = some l := by
    rw [hat _ hlen, List.getElem?_append_right (Nat.le_refl _), Nat.sub_self]
    rfl
  obtain ⟨hls, hlo⟩ := hr.of_mem hw (List.mem_of_getElem? hkl)
  obtain ⟨a, ha, rfl, hsms⟩ := login_of_issued hls hlo (hno l (List.mem_of_getElem? hkl)) hl hp
  refine ⟨pre.length, l, a, hkl, ha, ?_, fun hoff => ?_, fun _ => ⟨hlen, o, c, hl, hp, hstep⟩, ?_⟩
  · intro p hp
    rw [ho] at hp
    cases hp
    exact id_of_account? hsound hb'
  · rw [hsms] at hoff
    cases hoff
  · intro m x hkm hmi hx
    rw [hat m hmi, List.getElem?_append_right (Nat.le_of_lt hkm), List.getElem?_cons, if_neg (by omega)] at hx
    exact hmid x (List.mem_of_getElem? hx)

/-- **Behind every session** that was opened there is a login. -/
theorem exists_backs (hw : w.Sound) (hempty : ∀ id a, w.account? id = some a → a.credentials.otp = {})
    (hr : Run setup w es v) (hno : ∀ e ∈ es, ∀ id purpose number, e.step ≠ .call (.issueOtp id purpose number))
    {i : Nat} {e : Entry S} (he : es[i]? = some e) (ho : (opened? e.result).isSome) :
    ∃ k l a, Backs setup es i k e l a := by
  obtain ⟨hpre, heq⟩ := hr.split_at he
  have hsound := hpre.sound hw
  have hrun : e.result = (Entry.of setup e.step e.before).result := congrArg Entry.result heq
  obtain ⟨identifier, password, c, hstep⟩ | ⟨id, code, c, hstep⟩ := step_of_opened hsound (hrun ▸ ho)
  · rw [hstep] at heq
    have hres : e.result = ((Operation.login identifier password c).run setup e.before).1 := congrArg Entry.result heq
    obtain ⟨hnone, -⟩ | ⟨a, tokens, s, ha, hsms, hsome, -⟩ := opened?_login setup hsound identifier password c
    · rw [hres, hnone] at ho
      cases ho
    · refine ⟨i, e, a, he, heq ▸ ha, ?_, fun _ => rfl, fun hon => ?_, fun m x _ _ => by omega⟩
      · intro p hp
        rw [hres, hsome] at hp
        cases hp
        rfl
      · rw [hsms] at hon
        cases hon
  · have hres : e.result = ((Operation.finishLogin id code c).run setup e.before).1 := by
      rw [hrun, hstep]
      rfl
    obtain ⟨hnone, -⟩ | ⟨b, tokens, s, hb, hsome, -⟩ := opened?_finish setup hsound id code c
    · rw [hres, hnone] at ho
      cases ho
    · exact Backs.of_verify hw hempty hr hno he hstep hb (hres ▸ hsome)

omit [LawfulStore S] in
/-- A code that was taken is no longer in force: the step that took it wrote to the slot. -/
theorem Backs.not_lt {i j k : Nat} {e e' l l' : Entry S} {a : Account} (hi : Backs setup es i k e l a)
    (hj : Backs setup es j k e' l' a) (hsms : smsActive a.credentials) (he : es[i]? = some e)
    (ho : (opened? e.result).isSome) : ¬ i < j := by
  intro hlt
  obtain ⟨hk, o, c, -, -, hstep⟩ := hi.code hsms
  have hnone := hj.unused i e hk hlt he
  rw [otpWrite?_of_finished hstep ho] at hnone
  cases hnone

omit [LawfulStore S] in
/-- No login stands behind two sessions. -/
theorem Backs.injective {i j k : Nat} {e e' l l' : Entry S} {a a' : Account} (hi : Backs setup es i k e l a)
    (hj : Backs setup es j k e' l' a') (he : es[i]? = some e) (he' : es[j]? = some e')
    (ho : (opened? e.result).isSome) (ho' : (opened? e'.result).isSome) : i = j := by
  have hl : l = l' := Option.some.inj (hi.login.symm.trans hj.login)
  subst hl
  have ha : a = a' := Option.some.inj (hi.authenticated.symm.trans hj.authenticated)
  subst ha
  cases hsms : smsActive a.credentials with
  | false => rw [← hi.direct hsms, ← hj.direct hsms]
  | true =>
    have := hi.not_lt hj hsms he ho
    have := hj.not_lt hi hsms he' ho'
    omega

/-! ## Counting -/

/-- A count is the number of positions. -/
theorem card_positions {α : Type} (p : α → Bool) (l : List α) :
    ((Finset.range l.length).filter fun i => l[i]?.any p).card = l.countP p := by
  induction l using List.reverseRecOn with
  | nil => rfl
  | append_singleton l x ih =>
    have hold : ((Finset.range l.length).filter fun i => (l ++ [x])[i]?.any p) =
        (Finset.range l.length).filter fun i => l[i]?.any p := by
      refine Finset.filter_congr fun i hi => ?_
      rw [List.getElem?_append_left (Finset.mem_range.1 hi)]
    have hlast : (l ++ [x])[l.length]? = some x := by
      rw [List.getElem?_append_right (Nat.le_refl _), Nat.sub_self]
      rfl
    rw [List.length_append, List.length_singleton, Finset.range_add_one, Finset.filter_insert, hold, hlast,
      Option.any_some, List.countP_append, List.countP_singleton]
    split
    · rw [Finset.card_insert_of_notMem (by simp), ih]
    · rw [ih]
      rfl

/-- The login of an account found password, lock and address in order. -/
def Entry.authenticates (id : String) (e : Entry S) : Bool := e.authenticated?.any fun a => a.id = id

/-- Open sessions go back to logins. -/
theorem rooted_run (hw : w.Sound) (hnone : w.sessions = .empty) (hr : Run setup w es v) (token : String) (s : Session)
    (hs : v.sessions.get? token = some s) : Rooted es token s := by
  induction hr generalizing token s with
  | start =>
    rw [hnone] at hs
    cases hs
  | step hr step ih => exact (trades_step (hr.sound hw) step).rooted ih hs

/-- There are no more open sessions of an account than were opened by logins. -/
theorem count_run (hw : w.Sound) (hnone : w.sessions = .empty) (hr : Run setup w es v) (id : String) :
    v.sessions.count id ≤ es.countP (Entry.opens id) := by
  induction hr with
  | start =>
    rw [hnone]
    exact Nat.le_refl _
  | @step es v hr step ih =>
    rw [List.countP_append, List.countP_singleton]
    exact ((trades_step (hr.sound hw) step).count_le id).trans (Nat.add_le_add_right ih _)

/-- **Every session has its own login.** The sessions that logins opened go back, one by one, to logins that found the
account not locked, its password right and its address verified; where the account asks for a code by SMS, the session
took the code that its login issued. Open sessions go back to sessions that logins opened, and are no more than
these. -/
theorem sessions_backed (hw : w.Sound) (hnone : w.sessions = .empty)
    (hempty : ∀ id a, w.account? id = some a → a.credentials.otp = {}) (hr : Run setup w es v)
    (hno : ∀ e ∈ es, ∀ id purpose number, e.step ≠ .call (.issueOtp id purpose number)) :
    (∃ backer : Nat → Nat,
      (∀ i e tokens view, es[i]? = some e → opened? e.result = some (tokens, view) →
        ∃ l a, es[backer i]? = some l ∧ l.authenticated? = some a ∧ a.id = view.id ∧
          (smsActive a.credentials = false → backer i = i) ∧
          (smsActive a.credentials → backer i < i ∧ ∃ o c, l.otpWrite? setup a.id = some (.issued o) ∧
            o.purpose = .loginChallenge ∧ e.step = .call (.finishLogin a.id o.code c))) ∧
      Set.InjOn backer {i | ∃ e, es[i]? = some e ∧ (opened? e.result).isSome}) ∧
    (∀ token s, v.sessions.get? token = some s → Rooted es token s) ∧
    ∀ id, v.sessions.count id ≤ es.countP (Entry.opens id) ∧
      es.countP (Entry.opens id) ≤ es.countP (Entry.authenticates id) := by
  have hback : ∀ i, ∃ k, ∀ e, es[i]? = some e → (opened? e.result).isSome → ∃ l a, Backs setup es i k e l a := by
    intro i
    cases he : es[i]? with
    | none => exact ⟨0, fun e h => by cases h⟩
    | some e =>
      by_cases ho : (opened? e.result).isSome
      · obtain ⟨k, hk⟩ := exists_backs hw hempty hr hno he ho
        exact ⟨k, fun e' he' _ => Option.some.inj he' ▸ hk⟩
      · exact ⟨0, fun e' he' ho' => absurd (Option.some.inj he' ▸ ho') ho⟩
  choose backer hbacker using hback
  have hinj : Set.InjOn backer {i | ∃ e, es[i]? = some e ∧ (opened? e.result).isSome} := by
    rintro i ⟨e, he, ho⟩ j ⟨e', he', ho'⟩ hij
    obtain ⟨l, a, hi⟩ := hbacker i e he ho
    obtain ⟨l', a', hj⟩ := hbacker j e' he' ho'
    rw [← hij] at hj
    exact hi.injective hj he he' ho ho'
  refine ⟨⟨backer, ?_, hinj⟩, ?_, fun id => ⟨?_, ?_⟩⟩
  · intro i e tokens view he ho
    obtain ⟨l, a, hb⟩ := hbacker i e he (Option.isSome_of_eq_some ho)
    exact ⟨l, a, hb.login, hb.authenticated, (hb.account _ ho).symm, hb.direct, hb.code⟩
  · exact rooted_run hw hnone hr
  · exact count_run hw hnone hr id
  · rw [← card_positions, ← card_positions]
    refine Finset.card_le_card_of_injOn backer (fun i hi => ?_) (hinj.mono fun i hi => ?_)
    · obtain ⟨e, he, hopens⟩ := (Option.any_eq_true ..).1 (Finset.mem_filter.1 hi).2
      obtain ⟨p, hp, hid⟩ := Entry.opens_iff.1 hopens
      obtain ⟨l, a, hb⟩ := hbacker i e he (Option.isSome_of_eq_some hp)
      refine Finset.mem_filter.2 ⟨Finset.mem_range.2 (List.getElem?_eq_some_iff.1 hb.login).1, ?_⟩
      refine (Option.any_eq_true ..).2 ⟨l, hb.login, (Option.any_eq_true ..).2 ⟨a, hb.authenticated, ?_⟩⟩
      rw [← hb.account p hp, hid]
      exact decide_eq_true rfl
    · obtain ⟨e, he, hopens⟩ := (Option.any_eq_true ..).1 (Finset.mem_filter.1 hi).2
      obtain ⟨p, hp, -⟩ := Entry.opens_iff.1 hopens
      exact ⟨e, he, Option.isSome_of_eq_some hp⟩

/-- A session that the code of a login opened, after an exchange. It goes back to the step that opened it, and that to
a login with the right password, which sent the code. -/
theorem sessions_backed_smsSession :
    (∃ s, (World.sample.through Setup.sample Step.smsSession).sessions.get? "3" = some s ∧ s.account.id = "1" ∧
      Rooted (entriesOf Setup.sample World.sample Step.smsSession) "3" s) ∧
    ∃ l ∈ entriesOf Setup.sample World.sample Step.smsSession, ∃ a o,
      l.authenticated? = some a ∧ a.id = "1" ∧ l.otpWrite? Setup.sample a.id = some (.issued o) ∧
        o.purpose = .loginChallenge ∧ o.code = "000001" := by
  have hempty : ∀ id a, World.sample.account? id = some a → a.credentials.otp = {} := fun id a h => by
    obtain ⟨-, rfl⟩ := World.account?_sample h
    rfl
  have hno : ∀ e ∈ entriesOf Setup.sample World.sample Step.smsSession, ∀ id purpose number,
      e.step ≠ .call (.issueOtp id purpose number) := by
    intro e he id purpose number hs
    have hmem : e.step ∈ Step.smsSession := by
      rw [← map_step_entriesOf Setup.sample World.sample Step.smsSession]
      exact List.mem_map_of_mem he
    rw [hs] at hmem
    simp [Step.smsSession, Step.activation, Step.completion] at hmem
  obtain ⟨⟨backer, hbacked, -⟩, hrooted, -⟩ :=
    sessions_backed World.sound_sample rfl hempty (Run.of_steps Setup.sample World.sample Step.smsSession) hno
  obtain ⟨s, hs, hsid⟩ : ∃ s, (World.sample.through Setup.sample Step.smsSession).sessions.get? "3" = some s ∧
      s.account.id = "1" := by
    rw [World.through_smsSession]
    exact ⟨_, rfl, rfl⟩
  refine ⟨⟨s, hs, hsid, hrooted "3" s hs⟩, ?_⟩
  -- the sixth step opens the session, and is no login itself
  obtain ⟨e, tokens, view, he, hstep, hopened⟩ : ∃ e tokens view,
      (entriesOf Setup.sample World.sample Step.smsSession)[5]? = some e ∧
        e.step = .call (.finishLogin "1" "000001" none) ∧ opened? e.result = some (tokens, view) := by
    rw [entriesOf_smsSession]
    exact ⟨_, _, _, rfl, rfl, rfl⟩
  obtain ⟨l, a, hl, ha, -, hdirect, hcode⟩ := hbacked 5 e tokens view he hopened
  have hsms : smsActive a.credentials := by
    by_contra hoff
    rw [hdirect (by simpa using hoff), he] at hl
    cases hl
    unfold Entry.authenticated? Entry.loginOf? at ha
    rw [hstep] at ha
    cases ha
  obtain ⟨-, o, c, hissued, hpurpose, hs⟩ := hcode hsms
  rw [hstep, Step.call.injEq, Operation.finishLogin.injEq] at hs
  exact ⟨l, List.mem_of_getElem? hl, a, o, ha, hs.1.symm, hissued, hpurpose, hs.2.1.symm⟩

end AccountSecurity
