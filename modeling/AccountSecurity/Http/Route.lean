import AccountSecurity.Http.Message
import AccountSecurity.Service.Operation

/-!
# The endpoints

* `Route` : the endpoints, with their paths, bodies and whether they need a session;
* `Route.operation` : the call of a service that a request on a route asks for;
* `Route.responseOf` : the answer with what the call gives.
-/

namespace AccountSecurity

/-- The endpoints. -/
inductive Route where
  | login
  | verifyOtp
  | refresh
  | logout
  | totpGenerate
  | totpEnable
  | totpDisable
  | totpVerify
  | backupGenerate
  | backupVerify
  | smsInitiate
  | smsVerify
  | smsEnable
  | smsDisable
deriving DecidableEq, Repr

namespace Route

def all : List Route :=
  [login, verifyOtp, refresh, logout, totpGenerate, totpEnable, totpDisable, totpVerify,
   backupGenerate, backupVerify, smsInitiate, smsVerify, smsEnable, smsDisable]

/-- The path below the router's own. -/
def path : Route → String
  | login => "/login"
  | verifyOtp => "/login/verify-otp"
  | refresh => "/token/refresh"
  | logout => "/logout"
  | totpGenerate => "/2fa/generate"
  | totpEnable => "/2fa/enable"
  | totpDisable => "/2fa/disable"
  | totpVerify => "/2fa/verify"
  | backupGenerate => "/backup-codes"
  | backupVerify => "/backup-codes/verify"
  | smsInitiate => "/sms/initiate"
  | smsVerify => "/sms/verify"
  | smsEnable => "/sms/enable"
  | smsDisable => "/sms/disable"

/-- The method of the requests on all routes. -/
def method : String := "POST"

/-- The route is one of the SMS factor. -/
def isSms : Route → Bool
  | smsInitiate | smsVerify | smsEnable | smsDisable => true
  | _ => false

/-- The route is open to clients without a session. -/
def isOpen : Route → Bool
  | login | verifyOtp | refresh | logout => true
  | _ => false

/-- The body that a request on the route has; none is read on the others. -/
def model? : Route → Option RequestModel
  | login => some .login
  | verifyOtp => some .smsOtpVerify
  | refresh | logout => some .refreshToken
  | totpEnable | totpDisable | totpVerify | smsVerify => some .code
  | backupVerify => some .backupCodeVerify
  | smsInitiate => some .phoneNumber
  | totpGenerate | backupGenerate | smsEnable | smsDisable => none

/-- The fields of the body of a request on the route. -/
def readFields (route : Route) (request : Request) : Except (List Issue) (List (String × String)) :=
  match route.model? with
  | some m => m.readBody request.json?
  | none => .ok []

/-- The value of a field that was read. -/
def value (fields : List (String × String)) (name : String) : String := (fields.lookup name).getD ""

/-- The call of a service that a request on a route asks for, with the account of the session and the
fields of the body. -/
def operation (request : Request) (id : String) (fields : List (String × String)) : Route → Operation :=
  let context := some (RequestContext.ofHeaders request.headers request.client)
  let code := value fields "code"
  fun
    | login => .login (value fields "identifier") (value fields "password") context
    | verifyOtp => .finishLogin (value fields "account_id") code context
    | refresh => .refresh (value fields "refresh_token") context
    | logout => .logout (value fields "refresh_token") context
    | totpGenerate => .generateTotp id
    | totpEnable => .enableTotp id code
    | totpDisable => .disableTotp id code
    | totpVerify => .validateTotp id code
    | backupGenerate => .generateBackup id
    | backupVerify => .verifyBackup id code
    | smsInitiate => .initiatePhone id (value fields "phone_number")
    | smsVerify => .verifyPhone id code
    | smsEnable => .enableSms id
    | smsDisable => .disableSms id

/-- The answer with what a call gives. On two routes a flag tells whether a code was valid. The account of a
login must have a name. -/
def responseOf (route : Route) : Reply → Except Fault Response
  | .flag b => .ok (if route = totpVerify ∨ route = backupVerify then .validity b else .success b)
  | .done => .ok (.success true)
  | .backupCode code => .ok (.ok [("code", .string code)])
  | .tokens tokens => .ok (.tokens tokens none)
  | .loggedIn tokens account =>
    if account.displayName.isNone then .error (.answerLacks "display_name")
    else .ok (.tokens tokens account)
  | .challenged accountId =>
    .ok (.ok [("message", .string Login.challengeMessage), ("sms_otp_required", .bool true),
      ("account_id", .string accountId)])
  | .enrollment e =>
    .ok (.ok [("secret", .string e.secret), ("provisioning_uri", .string e.provisioningUri),
      ("qr_code_data_uri", .optionalString e.picture)])
  | .count n => .ok (.ok [("count", .int n)])
  | .account a => .ok (.ok [("account", a.view.toJson)])
  | .view v => .ok (.ok [("account", v.toJson)])

end Route

end AccountSecurity
