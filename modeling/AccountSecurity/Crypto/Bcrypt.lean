import AccountSecurity.Crypto.Blowfish
import AccountSecurity.Crypto.Sha1
import AccountSecurity.Encoding.Base64
import AccountSecurity.Text.Integer

/-!
# The cipher-based password hash

* `Bcrypt.digest` : the 23 bytes for a password, a salt of 16 bytes and a cost;
* `Bcrypt.Encoded` : a hash with its settings, and `Encoded.text`, as it is stored;
* `Bcrypt.Encoded.read?` : reads what `text` writes, and nothing else.
-/

namespace AccountSecurity.Bcrypt

/-- No more bytes of a password than these are hashed. -/
def maxPasswordBytes : Nat := 72

/-- The least and the greatest cost. -/
def minCost : Nat := 4

def maxCost : Nat := 31

/-- The alphabet of salts and digests. -/
def alphabet : List Char := "./ABCDEFGHIJKLMNOPQRSTUVWXYZabcdefghijklmnopqrstuvwxyz0123456789".toList

/-- The words of bytes, highest byte first. -/
def words (bytes : List UInt8) : Array UInt32 := ((Sha1.pieces 4 bytes).map Sha1.word).toArray

/-- The key of a password: its bytes and a zero, repeated up to 72 bytes. -/
def key (password : List UInt8) : List UInt8 :=
  let cycle := password ++ [0]
  ((List.range maxPasswordBytes).map fun i => cycle.getD (i % cycle.length) 0)

/-- Takes in the key and the salt by turns. -/
def harden (salt key : Array UInt32) : (turns : Nat) → Blowfish.State → Blowfish.State
  | 0, s => s
  | turns + 1, s => harden salt key turns (Blowfish.expand #[] salt (Blowfish.expand #[] key s))

/-- The text that is enciphered. -/
def message : List UInt8 := "OrpheanBeholderScryDoubt".toUTF8.toList

/-- Enciphers a pair of words 64 times. -/
def encipherOften (s : Blowfish.State) (h : Blowfish.Halves) : Blowfish.Halves :=
  (List.range 64).foldl (fun h _ => Blowfish.encipher s h) h

/-- The digest of a password. -/
def digest (cost : Nat) (salt password : List UInt8) : List UInt8 :=
  let key := words (key password)
  let salt := words salt
  let s := harden salt key (Nat.pow 2 cost) (Blowfish.expand salt key Blowfish.initial)
  let text := words message
  let pairs := (List.range 3).map fun i =>
    encipherOften s ⟨text.getD (2 * i) 0, text.getD (2 * i + 1) 0⟩
  (pairs.flatMap fun h => Sha1.bigEndian 4 h.left.toNat ++ Sha1.bigEndian 4 h.right.toNat).take 23

/-! ## The stored form -/

/-- A digest with the revision letter and the settings it was made with. -/
structure Encoded where
  revision : Char
  cost : Nat
  salt : List UInt8
  digest : List UInt8
deriving DecidableEq, Repr

/-- The revision of new hashes. -/
def currentRevision : Char := 'b'

/-- The revisions that are read; all stand for the same computation. -/
def revisions : List Char := ['a', 'b', 'x', 'y']

/-- The characters of a stored hash. -/
def Encoded.chars (e : Encoded) : List Char :=
  '$' :: '2' :: e.revision :: '$' :: Text.padded 2 e.cost ++
    '$' :: Base64.encode alphabet e.salt ++ Base64.encode alphabet e.digest

/-- A stored hash. -/
def Encoded.text (e : Encoded) : String := String.ofList e.chars

/-- A cost of two digits within its bounds. -/
def readCost? (a b : Char) : Option Nat :=
  if a.isDigit ∧ b.isDigit then
    let cost := 10 * (a.toNat - '0'.toNat) + (b.toNat - '0'.toNat)
    if minCost ≤ cost ∧ cost ≤ maxCost then some cost else none
  else none

/-- Reads a stored hash of 60 characters. -/
def Encoded.read? (s : List Char) : Option Encoded :=
  match s with
  | '$' :: '2' :: revision :: '$' :: a :: b :: '$' :: rest => do
    if revision ∈ revisions ∧ rest.length = 53 then
      let cost ← readCost? a b
      let salt ← Base64.decode? alphabet (rest.take 22)
      let digest ← Base64.decode? alphabet (rest.drop 22)
      return ⟨revision, cost, salt, digest⟩
    else none
  | _ => none

/-- The hash of a password under a cost and a salt. -/
def hash (cost : Nat) (salt password : List UInt8) : Encoded :=
  ⟨currentRevision, cost, salt, digest cost salt password⟩

/-- The password has the digest that is stored. -/
def Encoded.accepts (e : Encoded) (password : List UInt8) : Bool :=
  Bcrypt.digest e.cost e.salt password == e.digest

end AccountSecurity.Bcrypt
