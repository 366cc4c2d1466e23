/-!
# BLAKE2b

`Blake2b.digest size message` is the unkeyed digest of 1 to 64 bytes.

* `Blake2b.mix` : the quarter round on four words of the working vector;
* `Blake2b.permutation` : the order in which a round takes the words of a block;
* `Blake2b.compress` : the chaining value after a block.
-/

namespace AccountSecurity.Blake2b

/-- The initial chaining value, before the parameters are mixed in. -/
def initial : Array UInt64 :=
  #[0x6A09E667F3BCC908, 0xBB67AE8584CAA73B, 0x3C6EF372FE94F82B, 0xA54FF53A5F1D36F1,
    0x510E527FADE682D1, 0x9B05688C2B3E6C1F, 0x1F83D9ABFB41BD6B, 0x5BE0CD19137E2179]

/-- The orders of the message words; the twelve rounds use the first two twice. -/
def permutation : Array (Array Nat) :=
  #[#[0, 1, 2, 3, 4, 5, 6, 7, 8, 9, 10, 11, 12, 13, 14, 15],
    #[14, 10, 4, 8, 9, 15, 13, 6, 1, 12, 0, 2, 11, 7, 5, 3],
    #[11, 8, 12, 0, 5, 2, 15, 13, 10, 14, 3, 6, 7, 1, 9, 4],
    #[7, 9, 3, 1, 13, 12, 11, 14, 2, 6, 5, 10, 4, 0, 15, 8],
    #[9, 0, 5, 7, 2, 4, 10, 15, 14, 1, 11, 12, 6, 8, 3, 13],
    #[2, 12, 6, 10, 0, 11, 8, 3, 4, 13, 7, 5, 15, 14, 1, 9],
    #[12, 5, 1, 15, 14, 13, 4, 10, 0, 7, 6, 3, 9, 2, 8, 11],
    #[13, 11, 7, 14, 12, 1, 3, 9, 5, 0, 15, 4, 8, 6, 2, 10],
    #[6, 15, 14, 9, 11, 3, 0, 8, 12, 2, 13, 7, 1, 4, 10, 5],
    #[10, 2, 8, 4, 7, 6, 1, 5, 15, 11, 9, 14, 3, 12, 13, 0]]

/-- The word rotated to the right. -/
def rotateRight (x n : UInt64) : UInt64 := (x >>> n) ||| (x <<< (64 - n))

/-- Mixes two message words into the words `a`, `b`, `c`, `d` of the working vector. -/
def mix (v : Array UInt64) (a b c d : Nat) (x y : UInt64) : Array UInt64 :=
  let va := v.getD a 0 + v.getD b 0 + x
  let vd := rotateRight (v.getD d 0 ^^^ va) 32
  let vc := v.getD c 0 + vd
  let vb := rotateRight (v.getD b 0 ^^^ vc) 24
  let va := va + vb + y
  let vd := rotateRight (vd ^^^ va) 16
  let vc := vc + vd
  let vb := rotateRight (vb ^^^ vc) 63
  (((v.setIfInBounds a va).setIfInBounds b vb).setIfInBounds c vc).setIfInBounds d vd

/-- The words that each of the eight mixings of a round works on: the columns, then the diagonals. -/
def mixings : List (Nat × Nat × Nat × Nat) :=
  [(0, 4, 8, 12), (1, 5, 9, 13), (2, 6, 10, 14), (3, 7, 11, 15),
   (0, 5, 10, 15), (1, 6, 11, 12), (2, 7, 8, 13), (3, 4, 9, 14)]

/-- One round over the words of a block. -/
def round (words : Array UInt64) (v : Array UInt64) (index : Nat) : Array UInt64 :=
  let order := permutation.getD (index % 10) #[]
  mixings.zipIdx.foldl
    (fun v ((a, b, c, d), i) =>
      mix v a b c d (words.getD (order.getD (2 * i) 0) 0) (words.getD (order.getD (2 * i + 1) 0) 0))
    v

/-- The word of bytes, lowest first. -/
def word (bytes : List UInt8) : UInt64 := bytes.foldr (fun b w => (w <<< 8) ||| b.toUInt64) 0

/-- The bytes of a number of `width` bytes, lowest first. -/
def littleEndian (width n : Nat) : List UInt8 :=
  (List.range width).map fun i => UInt8.ofNat (n / Nat.pow 256 i)

/-- The chaining value after a block, `count` bytes of the message having been taken in. -/
def compress (h : Array UInt64) (block : List UInt8) (count : Nat) (isLast : Bool) : Array UInt64 :=
  let words := ((List.range 16).map fun i => word ((block.drop (8 * i)).take 8)).toArray
  let v := h ++ initial
  let v := v.setIfInBounds 12 (v.getD 12 0 ^^^ UInt64.ofNat count)
  let v := if isLast then v.setIfInBounds 14 (~~~ v.getD 14 0) else v
  let v := (List.range 12).foldl (round words) v
  ((List.range 8).map fun i => h.getD i 0 ^^^ v.getD i 0 ^^^ v.getD (i + 8) 0).toArray

/-- The digest of a message, of at most 64 bytes. -/
def digest (size : Nat) (message : List UInt8) : List UInt8 :=
  let h := initial.setIfInBounds 0 (initial.getD 0 0 ^^^ 0x01010000 ^^^ UInt64.ofNat size)
  let last := (message.length - 1) / 128
  let h := (List.range last).foldl
    (fun h i => compress h ((message.drop (128 * i)).take 128) (128 * (i + 1)) false) h
  let h := compress h (message.drop (128 * last)) message.length true
  (h.toList.flatMap fun w => littleEndian 8 w.toNat).take size

end AccountSecurity.Blake2b
