import AccountSecurity.Request.Context

/-!
# Audit events

* `EventType` : what happened, and the name under which it is logged;
* `Event` : one entry of the audit log; a failure always has a code (`Event.coded`);
* `Event.of` : the event of an operation, with the client's details from the request;
* `Event.toJson` : the logged record.
-/

namespace AccountSecurity

/-- What an audit event is about. -/
inductive EventType where
  | loginSuccess
  | loginFailed
  | logout
  | tokenRefreshed
  | userLocked
  | userCreated
  | mfaChallengeSent
  | mfaVerified
  | mfaFailed
  | mfaEnabled
  | mfaDisabled
  | backupCodeGenerated
  | backupCodeUsed
deriving DecidableEq, Repr

namespace EventType

def all : List EventType :=
  [loginSuccess, loginFailed, logout, tokenRefreshed, userLocked, userCreated, mfaChallengeSent,
   mfaVerified, mfaFailed, mfaEnabled, mfaDisabled, backupCodeGenerated, backupCodeUsed]

/-- The name in the log. -/
def name : EventType → String
  | loginSuccess => "auth.login.success"
  | loginFailed => "auth.login.failed"
  | logout => "auth.logout"
  | tokenRefreshed => "auth.token.refreshed"
  | userLocked => "auth.user.locked"
  | userCreated => "auth.user.created"
  | mfaChallengeSent => "auth.mfa.challenge_sent"
  | mfaVerified => "auth.mfa.verified"
  | mfaFailed => "auth.mfa.failed"
  | mfaEnabled => "auth.mfa.enabled"
  | mfaDisabled => "auth.mfa.disabled"
  | backupCodeGenerated => "auth.backup_code.generated"
  | backupCodeUsed => "auth.backup_code.used"

/-- The label in lists of all types. -/
def label : EventType → String
  | loginSuccess => "LOGIN_SUCCESS"
  | loginFailed => "LOGIN_FAILED"
  | logout => "LOGOUT"
  | tokenRefreshed => "TOKEN_REFRESHED"
  | userLocked => "USER_LOCKED"
  | userCreated => "USER_CREATED"
  | mfaChallengeSent => "MFA_CHALLENGE_SENT"
  | mfaVerified => "MFA_VERIFIED"
  | mfaFailed => "MFA_FAILED"
  | mfaEnabled => "MFA_ENABLED"
  | mfaDisabled => "MFA_DISABLED"
  | backupCodeGenerated => "BACKUP_CODE_GENERATED"
  | backupCodeUsed => "BACKUP_CODE_USED"

def ofName? (s : String) : Option EventType := all.find? (·.name == s)

end EventType

/-- An entry of the audit log. The metadata should be an object. -/
structure Event where
  eventType : EventType
  principal : Option String := none
  timestamp : DateTime
  ipAddress : Option String := none
  userAgent : Option String := none
  requestId : Option String := none
  success : Bool := true
  errorCode : Option String := none
  metadata : Json := .object []

namespace Event

/-- The code of a failure for which none is given. -/
def unknownError : String := "UNKNOWN_ERROR"

/-- The event, with a code if it is a failure. -/
def coded (e : Event) : Event :=
  if e.success ∨ (e.errorCode.any (· != "")) then e else { e with errorCode := some unknownError }

/-- The event of an operation at some time; one with an error code is a failure, and empty metadata are an
empty object. -/
def of (now : DateTime) (eventType : EventType) (principal : Option String)
    (context : Option RequestContext) (errorCode : Option String)
    (metadata : Json) : Event :=
  coded
    { eventType, principal, errorCode
      metadata := if metadata.isTruthy then metadata else .object []
      timestamp := now
      ipAddress := context.bind RequestContext.ipAddress
      userAgent := context.bind RequestContext.userAgent
      requestId := context.bind RequestContext.requestId
      success := errorCode.isNone }

/-- The logged record of an event. -/
def toJson (e : Event) : Json :=
  .object
    [("event_type", .string e.eventType.name),
     ("principal_id", .optionalString e.principal),
     ("timestamp", .string e.timestamp.timestamp),
     ("ip_address", .optionalString e.ipAddress),
     ("user_agent", .optionalString e.userAgent),
     ("request_id", .optionalString e.requestId),
     ("success", .bool e.success),
     ("error_code", .optionalString e.errorCode),
     ("metadata", e.metadata)]

end Event

end AccountSecurity
