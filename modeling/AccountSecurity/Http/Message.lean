import AccountSecurity.Http.Schema
import AccountSecurity.Session.Table
import AccountSecurity.Text.Lowercase

/-!
# Requests and answers over HTTP

* `Request` : a request, with the address of the client;
* `Request.json?` : what a body of a request is read as, by its media type;
* `Response` : an answer, and the answers that requests have.
-/

namespace AccountSecurity

/-! ## Requests -/

/-- A request, with the address of the client. -/
structure Request where
  method : String := "POST"
  path : String
  headers : List (String × String) := []
  client : Option String := none
  body : Option Json := none

/-- The media type is one of JSON: `application/json`, or any other kind of application data that is written in
JSON. Parameters behind a semicolon are passed over. -/
def isJsonMediaType (value : String) : Bool :=
  let name := (Text.lower (Text.trim (String.ofList (value.toList.takeWhile (· != ';'))))).toList
  let main := name.takeWhile (· != '/')
  let subtype := name.drop (main.length + 1)
  name.count '/' == 1 && main == "application".toList &&
    (subtype == "json".toList || "+json".toList.isSuffixOf subtype)

namespace Request

/-- The greatest character that headers can carry. -/
def maxHeaderChar : Char := '\xff'

/-- The text can be sent within a header. -/
def fitsHeader (s : String) : Bool := s.toList.all (· ≤ maxHeaderChar)

/-- All headers can be sent. -/
def isSendable (r : Request) : Bool :=
  r.headers.all fun h => fitsHeader (Text.lower h.1) && fitsHeader h.2

/-- The value of the first header of a name, in any case. -/
def firstHeader? (r : Request) (name : String) : Option String :=
  (r.headers.find? fun h => Text.lower h.1 == name).map Prod.snd

/-- The body as JSON, if there is one. Without a media type it is JSON; of another type it counts as a value
without fields. -/
def json? (r : Request) : Option Json :=
  match r.firstHeader? "content-type" with
  | some mediaType => r.body.map fun body => if isJsonMediaType mediaType then body else .null
  | none => r.body

/-- The scheme and the token of the first authorization header, parted at the first blank. -/
def credentials? (r : Request) : Option (String × String) := do
  let value ← r.firstHeader? "authorization"
  let scheme := value.toList.takeWhile (· != ' ')
  return (String.ofList scheme, String.ofList (value.toList.drop (scheme.length + 1)))

end Request

/-! ## Answers -/

/-- An answer, and what it says on how to authenticate. A page and a redirection have no body in JSON. -/
structure Response where
  status : Nat
  body : Option Json
  wwwAuthenticate : Option String := none

namespace Response

/-- An answer with a result. -/
def ok (fields : List (String × Json)) : Response := { status := 200, body := some (.object fields) }

/-- An answer that only says something. -/
def detail (status : Nat) (text : String) : Response :=
  { status, body := some (.object [("detail", .string text)]) }

/-- The answer to a refused request. -/
def ofRefusal (e : SecurityError) : Response :=
  { detail e.status e.message with
    wwwAuthenticate := if e.status = 401 then some TokenSet.tokenType else none }

/-- The answer to a body that cannot be used. It cannot be given if what was found has no place in JSON. -/
def ofIssues (issues : List Issue) : Except Fault Response :=
  if issues.all (·.found.isFinite) then
    .ok { status := 422, body := some (.object [("detail", .array (issues.map Issue.toJson))]) }
  else .error (.value .notFinite)

def notFound : Response := detail 404 "Not Found"

def methodNotAllowed : Response := detail 405 "Method Not Allowed"

/-- The answer without a live session. -/
def notAuthenticated : Response := detail 401 "Not authenticated"

/-- The answer to a path with slashes too many at the end. -/
def redirect : Response := { status := 307, body := none }

/-- A page of the documentation. -/
def page : Response := { status := 200, body := none }

end Response

/-- The record of an account's view. -/
def AccountView.toJson (a : AccountView) : Json :=
  .object
    [("id", .string a.id),
     ("email", .string a.email),
     ("display_name", .optionalString a.displayName),
     ("phone_number", .optionalString a.phoneNumber),
     ("org_unit_id", .optionalString a.orgUnitId)]

/-- The fields of a pair of tokens. -/
def TokenSet.fields (t : TokenSet) : List (String × Json) :=
  [("access_token", .string t.accessToken),
   ("refresh_token", .string t.refreshToken),
   ("expires_in", .int t.expiresIn),
   ("token_type", .string tokenType)]

namespace Response

/-- Tokens, with the account after a login. -/
def tokens (t : TokenSet) (account : Option AccountView) : Response :=
  ok (t.fields ++ [("account", (account.map AccountView.toJson).getD .null)])

def success (value : Bool) : Response := ok [("success", .bool value)]

def validity (value : Bool) : Response := ok [("is_valid", .bool value)]

end Response

end AccountSecurity
