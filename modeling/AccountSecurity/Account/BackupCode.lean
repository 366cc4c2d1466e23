import AccountSecurity.Error.Failure
import AccountSecurity.Time.TimestampReader

/-!
# Backup codes

* `BackupCode` : a recovery code with the time it was made and, once it is spent, the time of that;
* `BackupCode.ofText` : a new code. The code of a record from outside may be any JSON value;
* `BackupCode.sameAs` : equality of entries, under which offsets do not matter;
* `BackupCode.toJson`, `BackupCode.ofJson` : the stored record of a code;
* `BackupCode.ofRecord` : the code of a record from outside, in which the times need not be texts.
-/

namespace AccountSecurity

/-- A recovery code and its history. -/
structure BackupCode where
  code : Json
  createdAt : DateTime
  used : Bool := false
  usedAt : Option DateTime := none
deriving DecidableEq

namespace BackupCode

/-- An unused code that is a text. -/
def ofText (code : String) (createdAt : DateTime) : BackupCode := { code := .string code, createdAt }

/-- The code, used up at some time. -/
def spentAt (c : BackupCode) (now : DateTime) : BackupCode := { c with used := true, usedAt := some now }

/-- The submitted text is the code. Only a text can be compared with one. -/
def agrees (c : BackupCode) (submitted : String) : Except Fault Bool :=
  match c.code with
  | .string code => .ok (code == submitted)
  | _ => .error .notText

/-- The two entries count as equal: their times are the same points in time, whatever the offsets. -/
def sameAs (c d : BackupCode) : Bool :=
  c.code == d.code && c.createdAt.sameInstant d.createdAt && c.used == d.used &&
    match c.usedAt, d.usedAt with
    | some t, some u => t.sameInstant u
    | none, none => true
    | _, _ => false

/-- The record of a code. -/
def toJson (c : BackupCode) : Json :=
  .object
    [("code", c.code),
     ("created_at", .string c.createdAt.timestamp),
     ("used", .bool c.used),
     ("used_at", .optionalString (c.usedAt.map DateTime.timestamp))]

end BackupCode

/-! ## Records from outside -/

/-- A value in a record from outside: JSON, or a time that is not written out, with an offset or without one. -/
inductive RecordValue where
  | json (value : Json)
  | time (t : DateTime)
  | wallTime (t : WallTime)

namespace RecordValue

/-- A time that is not written out is true. -/
def isTruthy : RecordValue → Bool
  | json value => value.isTruthy
  | time _ | wallTime _ => true

/-- The time that a value gives; without an offset it is taken as universal time. -/
def readTime : RecordValue → Except Fault DateTime
  | json (.string s) =>
    match DateTime.read s with
    | .ok t => .ok t
    | .error problem => .error (.value (.badTimestamp problem))
  | json _ => .error .wrongKind
  | time t => .ok t
  | wallTime t => .ok t.utc

end RecordValue

/-- What a record has in the fields of a code. -/
structure BackupRecord where
  code : Option Json
  createdAt : Option RecordValue
  used : Option RecordValue
  usedAt : Option RecordValue

/-- The fields of a JSON record. -/
def BackupRecord.ofJson (record : Json) : BackupRecord :=
  { code := record.field? "code"
    createdAt := (record.field? "created_at").map .json
    used := (record.field? "used").map .json
    usedAt := (record.field? "used_at").map .json }

namespace BackupCode

/-- The time of use that a record gives; an empty value gives none. -/
def readUsedAt : Option RecordValue → Except Fault (Option DateTime)
  | some value => if value.isTruthy then value.readTime.map some else .ok none
  | none => .ok none

/-- Reads a record. Code and time of making are required; a missing flag is false. -/
def ofRecord (record : BackupRecord) : Except Fault BackupCode := do
  match record.code with
  | none => .error .missingField
  | some code =>
    match record.createdAt with
    | none => .error .missingField
    | some created =>
      let createdAt ← created.readTime
      let usedAt ← readUsedAt record.usedAt
      return { code, createdAt, used := record.used.any RecordValue.isTruthy, usedAt }

/-- Reads a JSON record. -/
def ofJson (record : Json) : Except Fault BackupCode := ofRecord (.ofJson record)

end BackupCode

end AccountSecurity
