import AccountSecurity.Error.Failure
import AccountSecurity.Text.Digit

/-!
# What a request may carry

* `Rule` : what a text has to satisfy, by its length or by a pattern;
* `RequestModel` : the fields that a kind of request must have;
* `RequestModel.read` : the fields of a body, or everything that is wrong with it (`Issue`).
-/

namespace AccountSecurity

/-! ## Rules -/

/-- The two patterns that texts are held to. -/
inductive Pattern where
  /-- As many decimal digits, of any script, as a code has. -/
  | code
  /-- An international phone number of 7 to 15 digits. -/
  | phoneNumber
deriving DecidableEq, Repr

namespace Pattern

/-- The pattern as it is shown. -/
def text : Pattern → String
  | code => "^\\d\x7b6\x7d$"
  | phoneNumber => "^\\+[1-9]\\d\x7b6,14\x7d$"

/-- The text satisfies the pattern. -/
def accepts (p : Pattern) (s : String) : Bool :=
  match p with
  | code => s.length == requestCodeDigits && s.toList.all Text.isDecimal
  | phoneNumber =>
    match s.toList with
    | '+' :: first :: rest =>
      '1' ≤ first && first ≤ '9' && 6 ≤ rest.length && rest.length ≤ 14 && rest.all Text.isDecimal
    | _ => false

end Pattern

/-- What a text has to satisfy. -/
inductive Rule where
  | nonempty
  | upTo (maxLength : Nat)
  | pattern (p : Pattern)
deriving DecidableEq, Repr

/-- One thing that is wrong with a body: its kind, its place, what is said, a detail, and the value that was
found. -/
structure Issue where
  kind : String
  place : List String
  message : String
  detail : Option (String × Json) := none
  found : Json := .null

namespace Issue

/-- The record of an issue. -/
def toJson (i : Issue) : Json :=
  .object <|
    [("type", .string i.kind), ("loc", .array (i.place.map .string)), ("msg", .string i.message)] ++
      match i.detail with
      | some detail => [("ctx", .object [detail])]
      | none => []

/-- The issue, at a place within another. -/
def under (place : String) (i : Issue) : Issue := { i with place := place :: i.place }

/-- The issue with the value that was found. -/
def of (found : Json) (i : Issue) : Issue := { i with found }

def tooShort : Issue where
  kind := "string_too_short"
  place := []
  message := "String should have at least 1 character"
  detail := some ("min_length", .int 1)

def tooLong (limit : Nat) : Issue where
  kind := "string_too_long"
  place := []
  message := "String should have at most " ++ Text.integerText limit ++ " characters"
  detail := some ("max_length", .int limit)

def mismatch (p : Pattern) : Issue where
  kind := "string_pattern_mismatch"
  place := []
  message := "String should match pattern '" ++ p.text ++ "'"
  detail := some ("pattern", .string p.text)

def noText : Issue where
  kind := "string_type"
  place := []
  message := "Input should be a valid string"

def missing : Issue where
  kind := "missing"
  place := []
  message := "Field required"

/-- A value that is no object, where a model of some name is expected. -/
def noModel (name : String) : Issue where
  kind := "model_type"
  place := []
  message := "Input should be a valid dictionary or instance of " ++ name
  detail := some ("class_name", .string name)

/-- A body that is no object. -/
def noObject : Issue where
  kind := "model_attributes_type"
  place := []
  message := "Input should be a valid dictionary or object to extract fields from"

end Issue

/-- What is wrong with a text. -/
def Rule.issue? (rule : Rule) (s : String) : Option Issue :=
  match rule with
  | nonempty => if s = "" then some .tooShort else none
  | upTo limit =>
    if s = "" then some .tooShort else if limit < s.length then some (.tooLong limit) else none
  | pattern p => if p.accepts s then none else some (.mismatch p)

/-! ## Models -/

/-- The kinds of bodies that requests have. -/
inductive RequestModel where
  | login
  | smsOtpVerify
  | code
  | backupCodeVerify
  | phoneNumber
  | refreshToken
deriving DecidableEq, Repr

namespace RequestModel

def all : List RequestModel :=
  [login, smsOtpVerify, code, backupCodeVerify, phoneNumber, refreshToken]

def name : RequestModel → String
  | login => "LoginRequest"
  | smsOtpVerify => "SmsOtpVerifyRequest"
  | code => "CodeRequest"
  | backupCodeVerify => "BackupCodeVerifyRequest"
  | phoneNumber => "PhoneNumberRequest"
  | refreshToken => "RefreshTokenRequest"

def ofName? (s : String) : Option RequestModel := all.find? (·.name == s)

/-- The longest backup code that a request may submit. -/
def maxBackupCode : Nat := 64

/-- The fields that a body must have, each with its rule. -/
def fields : RequestModel → List (String × Rule)
  | login => [("identifier", .nonempty), ("password", .nonempty)]
  | smsOtpVerify => [("account_id", .nonempty), ("code", .pattern .code)]
  | code => [("code", .pattern .code)]
  | backupCodeVerify => [("code", .upTo maxBackupCode)]
  | phoneNumber => [("phone_number", .pattern .phoneNumber)]
  | refreshToken => [("refresh_token", .nonempty)]

/-- Reads one field. -/
def readField (body : Json) (name : String) (rule : Rule) : Except Issue String :=
  match body.field? name with
  | none => .error ((Issue.missing.under name).of body)
  | some (.string s) =>
    match rule.issue? s with
    | some i => .error ((i.under name).of (.string s))
    | none => .ok s
  | some value => .error ((Issue.noText.under name).of value)

/-- Reads fields in order, and collects what is wrong with any of them. -/
def readFields (body : Json) : List (String × Rule) → Except (List Issue) (List (String × String))
  | [] => .ok []
  | (name, rule) :: rest =>
    match readField body name rule, readFields body rest with
    | .ok s, .ok values => .ok ((name, s) :: values)
    | .ok _, .error issues => .error issues
    | .error i, .ok _ => .error [i]
    | .error i, .error issues => .error (i :: issues)

/-- The fields of an object; other fields of it are left out. -/
def readObject (m : RequestModel) (body : Json) (otherwise : Issue) :
    Except (List Issue) (List (String × String)) :=
  match body with
  | .object _ => readFields body m.fields
  | _ => .error [otherwise.of body]

/-- The fields of a value. -/
def read (m : RequestModel) (value : Json) : Except (List Issue) (List (String × String)) :=
  m.readObject value (.noModel m.name)

/-- The fields of the body of a request, which may be absent. -/
def readBody (m : RequestModel) (body : Option Json) :
    Except (List Issue) (List (String × String)) :=
  let result :=
    match body with
    | some value => m.readObject value .noObject
    | none => .error [.missing]
  result.mapError fun issues => issues.map (Issue.under "body")

end RequestModel

end AccountSecurity
