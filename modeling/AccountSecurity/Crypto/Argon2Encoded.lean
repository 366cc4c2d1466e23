import AccountSecurity.Crypto.Argon2
import AccountSecurity.Encoding.Base64
import AccountSecurity.Text.Integer

/-!
# The stored form of a memory-hard hash

* `Argon2.Encoded` : a digest with the salt and the parameters it was made with;
* `Encoded.text` : the stored form, `$argon2id$v=19$m=65536,t=3,p=4$salt$digest`;
* `Encoded.read?` : reads a stored form; the version may be left out and means the first one then.
-/

namespace AccountSecurity.Argon2

/-- A digest with its salt and parameters. -/
structure Encoded where
  params : Params
  salt : List UInt8
  digest : List UInt8
deriving DecidableEq, Repr

/-- What every stored form begins with. -/
def mark : String := "$argon2"

/-- The name of a variant in stored forms. -/
def Kind.name : Kind → String
  | .dependent => "argon2d"
  | .independent => "argon2i"
  | .hybrid => "argon2id"

/-- The parameters as they are stored. -/
def Params.chars (p : Params) : List Char :=
  '$' :: p.kind.name.toList ++ "$v=".toList ++ Text.decimal p.version ++
    "$m=".toList ++ Text.decimal p.memory ++ ",t=".toList ++ Text.decimal p.passes ++
    ",p=".toList ++ Text.decimal p.lanes

/-- The characters of the stored form. -/
def Encoded.chars (e : Encoded) : List Char :=
  e.params.chars ++ '$' :: Base64.encode Base64.standard e.salt ++
    '$' :: Base64.encode Base64.standard e.digest

/-- The stored form. -/
def Encoded.text (e : Encoded) : String := String.ofList e.chars

/-! ## Reading -/

/-- The rest of a text behind what it begins with. -/
def after? : (start : List Char) → List Char → Option (List Char)
  | [], s => some s
  | _ :: _, [] => none
  | c :: start, x :: s => if c = x then after? start s else none

/-- Reads a number of at most 32 bits without leading zeros. -/
def readNumber? (s : List Char) : Option (Nat × List Char) :=
  let digits := s.takeWhile Char.isDigit
  let value := Text.ofDigits (digits.map fun c => c.toNat - '0'.toNat)
  if digits = [] ∨ (digits.head? = some '0' ∧ digits ≠ ['0']) ∨ Nat.pow 2 32 ≤ value then none
  else some (value, s.drop digits.length)

/-- Reads a number behind its name. -/
def readNamed? (name : String) (s : List Char) : Option (Nat × List Char) :=
  after? name.toList s >>= readNumber?

/-- Reads the variant, which is told by the first nine characters. -/
def readKind? (s : List Char) : Option (Kind × List Char) :=
  let start := String.ofList (s.take 9)
  if start = "$argon2id" then some (.hybrid, s.drop 9)
  else if start = "$argon2i$" then some (.independent, s.drop 8)
  else if start = "$argon2d$" then some (.dependent, s.drop 8)
  else none

/-- Reads the version, if it is given. -/
def readVersion? (s : List Char) : Option (Nat × List Char) :=
  match after? "$v=".toList s with
  | some rest => readNumber? rest
  | none => some (replacingVersion, s)

/-- The parameters are within their bounds: every lane has memory for two blocks in each of its four segments. -/
def Params.isUsable (p : Params) : Bool :=
  1 ≤ p.lanes && p.lanes ≤ maxLanes && 1 ≤ p.passes && p.passes ≤ maxPasses &&
    8 * p.lanes ≤ p.memory && p.memory ≤ maxMemory

/-- Reads a stored form; a null character ends it. -/
def Encoded.read? (s : List Char) : Option Encoded := do
  let s := s.takeWhile (· != '\x00')
  let (kind, s) ← readKind? s
  let (version, s) ← readVersion? s
  let (memory, s) ← readNamed? "$m=" s
  let (passes, s) ← readNamed? ",t=" s
  let (lanes, s) ← readNamed? ",p=" s
  let s ← after? ['$'] s
  let saltText := s.takeWhile (· != '$')
  let salt ← Base64.decode? Base64.standard saltText
  let s ← after? ['$'] (s.drop saltText.length)
  let digest ← Base64.decode? Base64.standard s
  let params : Params := ⟨kind, version, memory, passes, lanes⟩
  if params.isUsable ∧ 8 ≤ salt.length ∧ 4 ≤ digest.length then some ⟨params, salt, digest⟩ else none

/-! ## Hashing and checking -/

/-- The digest length of new hashes. -/
def digestSize : Nat := 32

/-- The hash of a password under some parameters and a salt. -/
def hash (params : Params) (salt password : List UInt8) : Encoded :=
  ⟨params, salt, digest params digestSize password salt⟩

/-- The password has the digest that is stored. -/
def Encoded.accepts (e : Encoded) (password : List UInt8) : Bool :=
  Argon2.digest e.params e.digest.length password e.salt == e.digest

end AccountSecurity.Argon2
