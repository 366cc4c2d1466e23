import AccountSecurity.Http.PathTemplate
import AccountSecurity.Http.Route

/-!
# The services over HTTP

* `Router.of` : the router under a path, unless codes have a length that requests cannot submit;
* `Router.endpointsAt` : what is served at a path;
* `Router.handle` : the answer to a request. A refusal becomes an answer with its status; a fault ends the
  request without one.
-/

namespace AccountSecurity
open World

/-! ## Routers -/

/-- The routes that are served, each at the paths of a template. -/
structure Router where
  routes : List (Route × PathTemplate)

/-- What a path leads to: a page of the documentation, or a route. -/
inductive Endpoint where
  | page
  | route (route : Route)
deriving DecidableEq, Repr

/-- The methods of the requests that are answered. -/
def Endpoint.methods : Endpoint → List String
  | page => ["GET", "HEAD"]
  | route _ => [Route.method]

namespace Router

/-- The lengths of codes that requests have to submit, each with the setting it comes from. -/
def codeLengths (setup : Setup) (withSms : Bool) : List (String × Int) :=
  [("OtpConfig.code_length", setup.otp.codeLength), ("TotpConfig.digits", setup.totp.digits)] ++
    if withSms then [("OtpConfig.code_length", setup.phoneOtp.codeLength)] else []

/-- A path that routes can be put under: empty, or with a slash in front and none at the end. -/
def isBase (base : String) : Bool :=
  base == "" || (base.toList.head? == some '/' && base.toList.getLast? != some '/')

/-- The router of some routes under a path. -/
def under (base : String) (routes : List Route) : Except Fault Router :=
  if isBase base then
    Router.mk <$> routes.mapM fun route => (route, ·) <$> PathTemplate.read (base ++ route.path)
  else .error .badPathPrefix

/-- The router for some settings. -/
def of (setup : Setup) (base : String) (withSms : Bool) : Except Failure Router :=
  match (codeLengths setup withSms).find? fun l => l.2 ≠ (requestCodeDigits : Int) with
  | some (setting, length) => .error (.value (.codeLength setting length))
  | none => (under base (Route.all.filter fun route => withSms || !route.isSms)).mapError .fault

/-- The paths of the pages of the documentation. -/
def pages : List String := ["/openapi.json", "/docs", "/docs/oauth2-redirect", "/redoc"]

/-- The endpoints, each with the template of its paths. -/
def endpoints (r : Router) : List (Endpoint × PathTemplate) :=
  pages.map (fun path => (.page, path.toList.map .char)) ++
    r.routes.map fun (route, template) => (.route route, template)

/-- The endpoints of a path. -/
def endpointsAt (r : Router) (path : String) : Except Fault (List Endpoint) := do
  let found ← r.endpoints.filterM fun e => e.2.accepts path
  return found.map Prod.fst

/-- The path without slashes at its end. -/
def withoutSlashes (path : String) : String :=
  String.ofList (path.toList.reverse.dropWhile (· == '/')).reverse

/-! ## Handling a request -/

variable {S : Type} [AccountStore S]

/-- The account of the session that a request presents. -/
def sessionAccount? (request : Request) : Op S (Option AccountView) := do
  match request.credentials? with
  | some (scheme, token) =>
    if scheme = TokenSet.tokenType then TokenIssuer.resolve token else return none
  | none => return none

/-- The answer on a route with what the call of a service gives, or to its refusal. -/
def answer (route : Route) (call : Op S Reply) : Op S Response := do
  let reply ← tryCatch (Except.ok <$> call) fun failure =>
    match failure with
    | .refused e => return .error e
    | .fault f => Action.fail f
  match reply with
  | .ok reply =>
    match route.responseOf reply with
    | .ok response => return response
    | .error f => Action.fail f
  | .error e => return .ofRefusal e

/-- The answer on a route. The session is checked before the body. -/
def handleRoute (setup : Setup) (request : Request) (route : Route) : Op S Response := do
  let account ← if route.isOpen then pure none else sessionAccount? request
  if !route.isOpen ∧ account.isNone then return .notAuthenticated
  else match route.readFields request with
    | .error issues => Action.ofExcept ((Response.ofIssues issues).mapError .fault)
    | .ok fields =>
      let call := route.operation request ((account.map AccountView.id).getD "") fields
      answer route (call.perform setup)

/-- The answer of an endpoint. -/
def handleAt (setup : Setup) (request : Request) : Endpoint → Op S Response
  | .page => return .page
  | .route route => handleRoute setup request route

/-- The answer to a path at which nothing is served. -/
def handleOther (r : Router) (path : String) : Except Fault Response := do
  if path.toList.getLast? = some '/' ∧ (← r.endpointsAt (withoutSlashes path)) ≠ [] then
    return .redirect
  else return .notFound

/-- The answer to a request. -/
def handle (r : Router) (setup : Setup) (request : Request) : Op S Response := do
  if !request.isSendable then Action.fail .unencodable
  else
    let found ← Action.ofExcept ((r.endpointsAt request.path).mapError .fault)
    match found.find? fun e => request.method ∈ e.methods with
    | some e => handleAt setup request e
    | none =>
      if found ≠ [] then return .methodNotAllowed
      else Action.ofExcept ((r.handleOther request.path).mapError .fault)

end Router

end AccountSecurity
