import AccountSecurity.Crypto.PiFraction

/-!
# The block cipher

The state of the cipher is 18 subkeys followed by four boxes of 256 words. A key is taken in by
enciphering the state into itself.

* `Blowfish.encipher` : the cipher on a pair of words;
* `Blowfish.expand` : the state after a key and a salt.
-/

namespace AccountSecurity.Blowfish

/-- Subkeys and boxes. -/
abbrev State := Array UInt32

/-- The number of subkeys. -/
def subkeys : Nat := 18

/-- The number of words of the state. -/
def size : Nat := subkeys + 4 * 256

/-- The state before any key: the fraction of π. -/
def initial : State := PiFraction.words size

/-- A pair of words. -/
structure Halves where
  left : UInt32
  right : UInt32

/-- A word of one of the four boxes. -/
@[inline] def box (s : State) (number : Nat) (byte : UInt32) : UInt32 :=
  s.getD (subkeys + 256 * number + (byte &&& 0xFF).toNat) 0

/-- The mixing of a word by the four boxes. -/
@[inline] def boxes (s : State) (x : UInt32) : UInt32 :=
  ((box s 0 (x >>> 24) + box s 1 (x >>> 16)) ^^^ box s 2 (x >>> 8)) + box s 3 x

/-- The remaining rounds, from the subkey `index` on, and the two subkeys at the end. -/
def rounds (s : State) : (left : Nat) → (index : Nat) → UInt32 → UInt32 → Halves
  | 0, index, l, r => ⟨r ^^^ s.getD (index + 1) 0, l ^^^ s.getD index 0⟩
  | left + 1, index, l, r =>
    let l := l ^^^ s.getD index 0
    rounds s left (index + 1) (r ^^^ boxes s l) l

/-- Enciphers a pair of words. -/
def encipher (s : State) (h : Halves) : Halves := rounds s 16 0 h.left h.right

/-- Mixes the words of a key into the subkeys. -/
def addKey (s : State) (key : Array UInt32) : State :=
  (List.range subkeys).foldl
    (fun s i => s.setIfInBounds i (s.getD i 0 ^^^ key.getD (i % key.size) 0)) s

/-- Replaces the remaining pairs of the state by enciphering one after the other. -/
def refill (salt : Array UInt32) : (pairs : Nat) → (index : Nat) → State → UInt32 → UInt32 → State
  | 0, _, s, _, _ => s
  | pairs + 1, index, s, l, r =>
    let l := l ^^^ salt.getD (2 * index % 4) 0
    let r := r ^^^ salt.getD ((2 * index + 1) % 4) 0
    let h := encipher s ⟨l, r⟩
    let s := s.setIfInBounds (2 * index) h.left
    let s := s.setIfInBounds (2 * index + 1) h.right
    refill salt pairs (index + 1) s h.left h.right

/-- The state after a key, with a salt of four words or with none. -/
def expand (salt key : Array UInt32) (s : State) : State :=
  refill salt (size / 2) 0 (addKey s key) 0 0

end AccountSecurity.Blowfish
