import AccountSecurity.Service.World

/-!
# Tokens

* `TokenIssuer.issue` : opens a session under two new tokens;
* `TokenIssuer.refresh` : closes the session of a refresh token and opens another for the same account;
* `TokenIssuer.revoke` : closes the session of a refresh token;
* `TokenIssuer.resolve` : the account behind a live access token.
-/

namespace AccountSecurity.TokenIssuer
open World
variable {S : Type}

/-- Opens a session. -/
def issue (setup : Setup) (account : AccountView) : Op S TokenSet := do
  let now ← utcNow
  let accessToken ← nextToken setup
  let refreshToken ← nextToken setup
  let accessExpiresAt ← Action.orFail .timeRange (now.addSeconds? setup.lifetimes.accessSeconds)
  let refreshExpiresAt ← Action.orFail .timeRange (now.addSeconds? setup.lifetimes.refreshSeconds)
  let session : Session := { account, accessToken, accessExpiresAt, refreshExpiresAt }
  modify fun w => { w with sessions := w.sessions.put refreshToken session }
  return ⟨accessToken, refreshToken, setup.lifetimes.accessSeconds⟩

/-- Closes the session of a refresh token and gives it. -/
def close (refreshToken : String) : Op S (Option Session) := do
  let session := (← get).sessions.get? refreshToken
  modify fun w => { w with sessions := w.sessions.erase refreshToken }
  return session

/-- Exchanges a refresh token, which is used up even if it has run out. -/
def refresh (setup : Setup) (refreshToken : String) : Op S TokenSet := do
  if refreshToken = "" then Action.refuse (.invalidToken .missing)
  else match ← close refreshToken with
    | none => Action.refuse (.invalidToken .unknown)
    | some session =>
      if session.refreshExpiresAt.before (← utcNow) then Action.refuse (.invalidToken .expired)
      else issue setup session.account

/-- Closes the session of a refresh token, and tells whether there was one. -/
def revoke (refreshToken : String) : Op S Bool := return (← close refreshToken).isSome

/-- The account behind a live access token. -/
def resolve (accessToken : String) : Op S (Option AccountView) := do
  let now ← utcNow
  return Sessions.resolve? (← get).sessions accessToken now

end AccountSecurity.TokenIssuer
