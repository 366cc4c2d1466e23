import AccountSecurity.Crypto.Argon2Encoded
import AccountSecurity.Crypto.Bcrypt
import AccountSecurity.Error.Failure
import AccountSecurity.Text.Pieces

/-!
# Password hashes

A hasher makes new hashes by one of two algorithms. Checking a password does not depend on the hasher:
the stored hash tells how it was made.

* `Hasher.hash` : a new hash, refused for a password too long for the cipher-based algorithm;
* `verify` : the password matches the stored hash; a hash that cannot be read matches nothing;
* `Hasher.needsRehash` : the stored hash was made by the other algorithm or with other costs.
-/

namespace AccountSecurity

/-- The costs of the memory-hard algorithm. -/
structure MemoryCosts where
  passes : Int := 3
  memory : Int := 65536
  lanes : Int := 4
deriving DecidableEq, Repr

/-- How new hashes are made. -/
inductive Hasher where
  | bcrypt (rounds : Int)
  | argon2id (costs : MemoryCosts)
deriving DecidableEq, Repr

/-- The salts of new hashes: a text of 22 characters, and bytes. -/
structure Salts where
  text : String
  bytes : List UInt8
deriving DecidableEq, Repr

namespace Hasher

/-- The rounds of the cipher-based algorithm where none are given. -/
def defaultRounds : Int := 12

/-- The name of the algorithm. -/
def algorithmName : Hasher → String
  | bcrypt _ => "bcrypt"
  | argon2id _ => "argon2id"

/-- The bytes of a password. -/
def passwordBytes (password : String) : List UInt8 := password.toUTF8.toList

/-- The password is too long for the cipher-based algorithm. -/
def isTooLong (password : String) : Bool := Bcrypt.maxPasswordBytes < password.utf8ByteSize

/-! ## New hashes -/

/-- A cost fits into a word of 32 bits. -/
def isWord (cost : Int) : Bool := 0 ≤ cost && cost < Nat.pow 2 32

/-- The parameters for the costs of a hasher, if hashes can be made under them. -/
def paramsOf (costs : MemoryCosts) : Except Fault Argon2.Params :=
  if isWord costs.passes && isWord costs.memory && isWord costs.lanes then
    let p : Argon2.Params :=
      ⟨.hybrid, Argon2.currentVersion, costs.memory.toNat, costs.passes.toNat, costs.lanes.toNat⟩
    if p.isUsable then .ok p else .error .badCosts
  else .error .numberRange

/-- The salt bytes of a salt text. -/
def saltOf? (text : String) : Option (List UInt8) :=
  let chars := text.toList.take 22
  if chars.length = 22 then Base64.decode? Bcrypt.alphabet chars else none

/-- A new hash of a password. -/
def hash (h : Hasher) (salts : Salts) (password : String) : Except Failure String :=
  match h with
  | argon2id costs =>
    match paramsOf costs with
    | .ok params => .ok (Argon2.hash params salts.bytes (passwordBytes password)).text
    | .error f => .error (.fault f)
  | bcrypt rounds =>
    if isTooLong password then .error (.refused (.passwordTooLong Bcrypt.maxPasswordBytes))
    else if rounds < Bcrypt.minCost ∨ (Bcrypt.maxCost : Int) < rounds then
      .error (.value .badRounds)
    else match saltOf? salts.text with
      | some salt => .ok (Bcrypt.hash rounds.toNat salt (passwordBytes password)).text
      | none => .error (.value .badSalt)

/-! ## Checking -/

/-- The hash is one of the memory-hard algorithm. -/
def isMemoryHard (stored : String) : Bool := (Argon2.after? Argon2.mark.toList stored.toList).isSome

/-- The password matches the stored hash. A memory-hard hash must be ASCII text. -/
def verify (stored password : String) : Except Failure Bool :=
  if isMemoryHard stored then
    if stored.toList.any (0x80 ≤ ·.toNat) then .error (.fault .unencodable)
    else match Argon2.Encoded.read? stored.toList with
      | some e => .ok (e.accepts (passwordBytes password))
      | none => .ok false
  else if isTooLong password then .ok false
  else match Bcrypt.Encoded.read? stored.toList with
    | some e => .ok (e.accepts (passwordBytes password))
    | none => .ok false

/-! ## The need of a new hash -/

/-- What a stored hash says of the settings it was made with. Numbers are read leniently. -/
structure StoredSettings where
  kind : String
  version : Int
  saltSize : Nat
  digestSize : Nat
  passes : Int
  memory : Int
  lanes : Int
deriving DecidableEq, Repr

/-- The number of bytes that a text in base 64 of this length stands for. -/
def decodedSize (length : Nat) : Nat :=
  length / 4 * 3 + match length % 4 with
    | 3 => 2
    | 2 => 1
    | _ => 0

/-- Reads a setting `name=number`. -/
def readSetting? (item : String) : Option (String × Int) :=
  match Text.pieces '=' item with
  | [name, value] => (Text.readInteger? value).map fun n => (name, n)
  | _ => none

/-- The names of the settings that a stored hash has. -/
def settingNames : List String := ["m", "p", "t", "v"]

/-- The last value that a name is given. -/
def lastValue? (settings : List (String × Int)) (name : String) : Option Int :=
  settings.reverse.lookup name

/-- The settings of a stored memory-hard hash; one without a version is of the version before. -/
def storedSettings? (stored : String) : Option StoredSettings := do
  let parts := Text.pieces '$' stored
  let parts := if parts.length = 5 then parts.take 2 ++ "v=18" :: parts.drop 2 else parts
  match parts with
  | [start, kind, version, costs, salt, digest] =>
    if start = "" ∧ kind ∈ ["argon2d", "argon2i", "argon2id"] then
      let settings ← (version :: Text.pieces ',' costs).mapM readSetting?
      if settings.all (settingNames.contains ·.1) then
        return ⟨kind, ← lastValue? settings "v", decodedSize salt.length, decodedSize digest.length,
          ← lastValue? settings "t", ← lastValue? settings "m", ← lastValue? settings "p"⟩
      else none
    else none
  | _ => none

/-- The settings of the hashes that are made under some costs. -/
def currentSettings (costs : MemoryCosts) : StoredSettings :=
  ⟨Argon2.Kind.hybrid.name, Argon2.currentVersion, 16, Argon2.digestSize,
    costs.passes, costs.memory, costs.lanes⟩

/-- The cost field of a stored hash of the cipher-based algorithm, if it is a number. -/
def storedRounds? (stored : String) : Option Int := do
  Text.readInteger? (← (Text.pieces '$' stored)[2]?)

/-- The stored hash should be replaced: it is of the other algorithm, of lower rounds, or of other
memory-hard settings. A hash whose rounds cannot be read is left alone. -/
def needsRehash (h : Hasher) (stored : String) : Except Failure Bool :=
  match h, isMemoryHard stored with
  | bcrypt _, true => .ok true
  | argon2id costs, true =>
    match storedSettings? stored with
    | some settings => .ok (settings != currentSettings costs)
    | none => .error (.fault .malformedHash)
  | argon2id _, false => .ok true
  | bcrypt rounds, false =>
    match storedRounds? stored with
    | some cost => .ok (cost < rounds)
    | none => .ok false

end Hasher

end AccountSecurity
