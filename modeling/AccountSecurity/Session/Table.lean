import AccountSecurity.Account.Credentials
import AccountSecurity.Table

/-!
# Sessions

A session belongs to a pair of tokens. Sessions are kept under their refresh tokens, in the order in which
they were opened.

* `TokenSet` : the tokens handed to a client;
* `Sessions.resolve?` : the account behind an access token that has not run out.
-/

namespace AccountSecurity

/-- A pair of tokens and the seconds for which the first of them is valid. -/
structure TokenSet where
  accessToken : String
  refreshToken : String
  expiresIn : Int
deriving DecidableEq, Repr

/-- How the access token is to be presented. -/
def TokenSet.tokenType : String := "Bearer"

/-- The account of a session, its access token, and the times at which the tokens run out. -/
structure Session where
  account : AccountView
  accessToken : String
  accessExpiresAt : DateTime
  refreshExpiresAt : DateTime
deriving DecidableEq

/-- The open sessions under their refresh tokens. -/
abbrev Sessions := Table Session

/-- The access token belongs to the session and has not run out. -/
def Session.answersTo (s : Session) (accessToken : String) (now : DateTime) : Bool :=
  s.accessToken == accessToken && !s.accessExpiresAt.before now

/-- The account behind a live access token. -/
def Sessions.resolve? (sessions : Sessions) (accessToken : String) (now : DateTime) :
    Option AccountView :=
  (sessions.values.find? fun s => s.answersTo accessToken now).map Session.account

end AccountSecurity
