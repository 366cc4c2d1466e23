import AccountSecurity.Json
import AccountSecurity.Text.Lowercase
import AccountSecurity.Time.Timestamp

/-!
# The calling request

`RequestContext` is what is kept of a request for the audit log. `RequestContext.ofHeaders` takes it from
the headers of a request, whose names may be spelled in any case.
-/

namespace AccountSecurity

/-- A request's identifier, and the address and program of the client. -/
structure RequestContext where
  requestId : Option String := none
  ipAddress : Option String := none
  userAgent : Option String := none
deriving DecidableEq, Repr

namespace RequestContext

/-- The value of the last header of a name, in any case. -/
def lastHeader? (headers : List (String × String)) (name : String) : Option String :=
  (headers.reverse.find? fun h => Text.lower h.1 == name).map Prod.snd

/-- The address that a list of forwarding hosts begins with. -/
def firstHop (forwarded : String) : String :=
  Text.trim (String.ofList (forwarded.toList.takeWhile (· != ',')))

/-- The context of a request; the first forwarding host wins over the address of the connection. -/
def ofHeaders (headers : List (String × String)) (remote : Option String) : RequestContext :=
  { requestId := lastHeader? headers "x-request-id"
    ipAddress :=
      match lastHeader? headers "x-forwarded-for" with
      | some forwarded => if forwarded = "" then remote else some (firstHop forwarded)
      | none => remote
    userAgent := lastHeader? headers "user-agent" }

/-- The record of a context that was taken at some time. -/
def toJson (c : RequestContext) (taken : DateTime) : Json :=
  .object
    [("request_id", .optionalString c.requestId),
     ("ip_address", .optionalString c.ipAddress),
     ("user_agent", .optionalString c.userAgent),
     ("created_at", .string taken.timestamp)]

end RequestContext

end AccountSecurity
