import AccountSecurity.Proofs.Service.World
import AccountSecurity.Service.TokenIssuer

/-!
# What the calls for tokens do

* `World.opened`, `World.closed` : the state after a session was opened or closed;
* `runOn_issue`, `runOn_refresh`, `runOn_revoke` : opening, exchanging and closing a session.
-/

namespace AccountSecurity

namespace World
variable {S : Type}

/-- The state after two tokens were taken. -/
@[simps] def tookTokens (w : World S) : World S := { w with tokensTaken := w.tokensTaken + 2 }

/-- The state with a session under a refresh token. -/
@[simps] def opened (refreshToken : String) (session : Session) (w : World S) : World S :=
  { w with sessions := w.sessions.put refreshToken session }

/-- The state without the session of a refresh token. -/
@[simps] def closed (refreshToken : String) (w : World S) : World S :=
  { w with sessions := w.sessions.erase refreshToken }

variable [AccountStore S] [LawfulStore S] {w : World S}

theorem Sound.tookTokens (h : w.Sound) : w.tookTokens.Sound := h.congr rfl rfl

theorem Sound.opened (h : w.Sound) (t : String) (s : Session) : (w.opened t s).Sound := h.congr rfl rfl

theorem Sound.closed (h : w.Sound) (t : String) : (w.closed t).Sound := h.congr rfl rfl

@[simp] theorem account?_tookTokens : w.tookTokens.account? = w.account? := rfl

@[simp] theorem account?_opened (t : String) (s : Session) : (w.opened t s).account? = w.account? := rfl

@[simp] theorem account?_closed (t : String) : (w.closed t).account? = w.account? := rfl

end World

namespace TokenIssuer
open World
variable {S : Type} [AccountStore S] [LawfulStore S] {w : World S}

/-- The tokens that would be made next. -/
def nextTokens (setup : Setup) (w : World S) : TokenSet :=
  ⟨setup.sources.tokens w.tokensTaken, setup.sources.tokens (w.tokensTaken + 1), setup.lifetimes.accessSeconds⟩

/-- The session that would be opened next, if the times at which its tokens run out can be shown. -/
def nextSession? (setup : Setup) (account : AccountView) (w : World S) : Option Session := do
  let accessExpiresAt ← w.clock.addSeconds? setup.lifetimes.accessSeconds
  let refreshExpiresAt ← w.clock.addSeconds? setup.lifetimes.refreshSeconds
  return { account, accessToken := (nextTokens setup w).accessToken, accessExpiresAt, refreshExpiresAt }

omit [AccountStore S] [LawfulStore S] in
theorem account_of_nextSession {setup : Setup} {account : AccountView} {s : Session}
    (h : nextSession? setup account w = some s) : s.account = account := by
  unfold nextSession? at h
  simp only [bind, Option.bind_eq_some_iff, pure, Option.some.injEq] at h
  obtain ⟨t, -, u, -, rfl⟩ := h
  rfl

/-- Opening a session puts it under a new refresh token; without expiry times there is none. -/
theorem runOn_issue (h : w.Sound) (setup : Setup) (account : AccountView) :
    (issue setup account).runOn w =
      match nextSession? setup account w with
      | none => (.error (.fault .timeRange), w.tookTokens)
      | some s => (.ok (nextTokens setup w), w.tookTokens.opened (nextTokens setup w).refreshToken s) := by
  have ha : (nextToken setup).runOn w =
      (.ok (nextTokens setup w).accessToken, { w with tokensTaken := w.tokensTaken + 1 }) := rfl
  have hr : (nextToken setup).runOn { w with tokensTaken := w.tokensTaken + 1 } =
      (.ok (nextTokens setup w).refreshToken, w.tookTokens) := rfl
  unfold issue nextSession?
  rw [Action.runOn_bind_of_ok (runOn_utcNow h), Action.runOn_bind_of_ok ha, Action.runOn_bind_of_ok hr,
    Action.runOn_bind]
  cases w.clock.addSeconds? setup.lifetimes.accessSeconds with
  | none => rfl
  | some t =>
    rw [Action.runOn_orFail_some]
    dsimp only
    rw [Action.runOn_bind]
    cases w.clock.addSeconds? setup.lifetimes.refreshSeconds with
    | none => rfl
    | some u => rfl

omit [AccountStore S] [LawfulStore S] in
theorem runOn_close (refreshToken : String) :
    (close refreshToken).runOn w = (.ok (w.sessions.get? refreshToken), w.closed refreshToken) := rfl

/-- Exchanging a refresh token closes its session, and opens one for the same account while it is in time. -/
theorem runOn_refresh (h : w.Sound) (setup : Setup) (refreshToken : String) :
    (refresh setup refreshToken).runOn w =
      if refreshToken = "" then (.error (.refused (.invalidToken .missing)), w)
      else match w.sessions.get? refreshToken with
        | none => (.error (.refused (.invalidToken .unknown)), w.closed refreshToken)
        | some s =>
          if s.refreshExpiresAt.before w.clock then
            (.error (.refused (.invalidToken .expired)), w.closed refreshToken)
          else match nextSession? setup s.account w with
            | none => (.error (.fault .timeRange), (w.closed refreshToken).tookTokens)
            | some s' => (.ok (nextTokens setup w),
                (w.closed refreshToken).tookTokens.opened (nextTokens setup w).refreshToken s') := by
  have hc := h.closed refreshToken
  unfold refresh
  split
  · rfl
  · rw [Action.runOn_bind_of_ok (runOn_close refreshToken)]
    cases w.sessions.get? refreshToken with
    | none => rfl
    | some s =>
      dsimp only
      rw [Action.runOn_bind_of_ok (runOn_utcNow hc), closed_clock]
      split
      · rfl
      · exact runOn_issue hc ..

omit [AccountStore S] [LawfulStore S] in
theorem runOn_revoke (refreshToken : String) :
    (revoke refreshToken).runOn w = (.ok (w.sessions.get? refreshToken).isSome, w.closed refreshToken) := rfl

end TokenIssuer

end AccountSecurity
