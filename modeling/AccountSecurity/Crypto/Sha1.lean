/-!
# SHA-1

`Sha1.digest` is the 20-byte digest of a message.

* `Sha1.pad` : the message with its end mark, zeros and its length in bits, in blocks of 64 bytes;
* `Sha1.schedule` : the 80 words of a block;
* `Sha1.compress` : the state after a block.
-/

namespace AccountSecurity.Sha1

/-- The word rotated to the left. -/
def rotateLeft (x n : UInt32) : UInt32 := (x <<< n) ||| (x >>> (32 - n))

/-- The five words of the state. -/
structure State where
  a : UInt32
  b : UInt32
  c : UInt32
  d : UInt32
  e : UInt32

def initial : State := ⟨0x67452301, 0xEFCDAB89, 0x98BADCFE, 0x10325476, 0xC3D2E1F0⟩

/-- The bytes of a number of `width` bytes, highest first. -/
def bigEndian (width n : Nat) : List UInt8 :=
  (List.range width).reverse.map fun i => UInt8.ofNat (n / Nat.pow 256 i)

/-- The word of four bytes, highest first. -/
def word (bytes : List UInt8) : UInt32 := bytes.foldl (fun w b => (w <<< 8) ||| b.toUInt32) 0

/-- The message with a mark, zeros and its length, up to a multiple of 64 bytes. -/
def pad (message : List UInt8) : List UInt8 :=
  message ++ 0x80 :: List.replicate ((119 - message.length % 64) % 64) 0 ++
    bigEndian 8 (8 * message.length)

/-- The pieces of a list, each of `size` members but the last. -/
def pieces (size : Nat) (s : List UInt8) : List (List UInt8) :=
  (List.range ((s.length + size - 1) / size)).map fun i => (s.drop (size * i)).take size

/-- The words of a block and the 64 that are derived from them. -/
def schedule (block : List UInt8) : Array UInt32 :=
  (List.range 64).foldl
    (fun w i =>
      w.push (rotateLeft
        (w.getD (i + 13) 0 ^^^ w.getD (i + 8) 0 ^^^ w.getD (i + 2) 0 ^^^ w.getD i 0) 1))
    ((pieces 4 block).map word).toArray

/-- The function and the constant of a step. -/
def stepMix (i : Nat) (b c d : UInt32) : UInt32 × UInt32 :=
  if i < 20 then ((b &&& c) ||| (~~~b &&& d), 0x5A827999)
  else if i < 40 then (b ^^^ c ^^^ d, 0x6ED9EBA1)
  else if i < 60 then ((b &&& c) ||| (b &&& d) ||| (c &&& d), 0x8F1BBCDC)
  else (b ^^^ c ^^^ d, 0xCA62C1D6)

/-- One step. -/
def step (w : Array UInt32) (s : State) (i : Nat) : State :=
  let (f, k) := stepMix i s.b s.c s.d
  ⟨rotateLeft s.a 5 + f + s.e + k + w.getD i 0, s.a, rotateLeft s.b 30, s.c, s.d⟩

/-- The state after a block. -/
def compress (s : State) (block : List UInt8) : State :=
  let t := (List.range 80).foldl (step (schedule block)) s
  ⟨s.a + t.a, s.b + t.b, s.c + t.c, s.d + t.d, s.e + t.e⟩

/-- The digest of a message. -/
def digest (message : List UInt8) : List UInt8 :=
  let s := (pieces 64 (pad message)).foldl compress initial
  [s.a, s.b, s.c, s.d, s.e].flatMap fun w => bigEndian 4 w.toNat

end AccountSecurity.Sha1
