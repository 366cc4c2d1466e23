import AccountSecurity.Crypto.Blake2b

/-!
# Blocks of the memory-hard hash

A block is a square of eight rows by eight pairs of words. Filling the memory mixes each row and then
each column of the exclusive or of two blocks.

* `Row.mix` : the mixing of sixteen words, with a multiplication in every addition;
* `Block.transpose` : rows and columns exchanged, so that columns are mixed as rows;
* `Block.fill` : the new block from two others.
-/

namespace AccountSecurity.Argon2

/-- Sixteen words. -/
structure Row where
  v0 : UInt64
  v1 : UInt64
  v2 : UInt64
  v3 : UInt64
  v4 : UInt64
  v5 : UInt64
  v6 : UInt64
  v7 : UInt64
  v8 : UInt64
  v9 : UInt64
  v10 : UInt64
  v11 : UInt64
  v12 : UInt64
  v13 : UInt64
  v14 : UInt64
  v15 : UInt64
deriving Inhabited

/-- The sum of two words and of twice the product of their lower halves. -/
@[inline] def mulAdd (x y : UInt64) : UInt64 :=
  x + y + 2 * (x &&& 0xFFFFFFFF) * (y &&& 0xFFFFFFFF)

/-- Four words. -/
structure Quad where
  a : UInt64
  b : UInt64
  c : UInt64
  d : UInt64

/-- The mixing of four words. -/
@[inline] def Quad.mix (a b c d : UInt64) : Quad :=
  let a := mulAdd a b
  let d := Blake2b.rotateRight (d ^^^ a) 32
  let c := mulAdd c d
  let b := Blake2b.rotateRight (b ^^^ c) 24
  let a := mulAdd a b
  let d := Blake2b.rotateRight (d ^^^ a) 16
  let c := mulAdd c d
  let b := Blake2b.rotateRight (b ^^^ c) 63
  ⟨a, b, c, d⟩

namespace Row

/-- The row of one word repeated. -/
def all (w : UInt64) : Row := ⟨w, w, w, w, w, w, w, w, w, w, w, w, w, w, w, w⟩

/-- The row of the first sixteen words of a list; zero for what is missing. -/
def ofList (ws : List UInt64) : Row :=
  let w i := ws.getD i 0
  ⟨w 0, w 1, w 2, w 3, w 4, w 5, w 6, w 7, w 8, w 9, w 10, w 11, w 12, w 13, w 14, w 15⟩

def toList (r : Row) : List UInt64 :=
  [r.v0, r.v1, r.v2, r.v3, r.v4, r.v5, r.v6, r.v7, r.v8, r.v9, r.v10, r.v11,
   r.v12, r.v13, r.v14, r.v15]

/-- The exclusive or, word by word. -/
def xor (r s : Row) : Row :=
  ⟨r.v0 ^^^ s.v0, r.v1 ^^^ s.v1, r.v2 ^^^ s.v2, r.v3 ^^^ s.v3,
   r.v4 ^^^ s.v4, r.v5 ^^^ s.v5, r.v6 ^^^ s.v6, r.v7 ^^^ s.v7,
   r.v8 ^^^ s.v8, r.v9 ^^^ s.v9, r.v10 ^^^ s.v10, r.v11 ^^^ s.v11,
   r.v12 ^^^ s.v12, r.v13 ^^^ s.v13, r.v14 ^^^ s.v14, r.v15 ^^^ s.v15⟩

/-- Mixes the columns and then the diagonals of the row, read as a square of four by four words. -/
def mix (r : Row) : Row :=
  let p := Quad.mix r.v0 r.v4 r.v8 r.v12
  let q := Quad.mix r.v1 r.v5 r.v9 r.v13
  let s := Quad.mix r.v2 r.v6 r.v10 r.v14
  let t := Quad.mix r.v3 r.v7 r.v11 r.v15
  let w := Quad.mix p.a q.b s.c t.d
  let x := Quad.mix q.a s.b t.c p.d
  let y := Quad.mix s.a t.b p.c q.d
  let z := Quad.mix t.a p.b q.c s.d
  ⟨w.a, x.a, y.a, z.a, z.b, w.b, x.b, y.b, y.c, z.c, w.c, x.c, x.d, y.d, z.d, w.d⟩

end Row

/-- Eight rows. -/
structure Block where
  r0 : Row
  r1 : Row
  r2 : Row
  r3 : Row
  r4 : Row
  r5 : Row
  r6 : Row
  r7 : Row
deriving Inhabited

namespace Block

/-- The block of zeros. -/
def zero : Block :=
  let r := Row.all 0
  ⟨r, r, r, r, r, r, r, r⟩

/-- The block of the first 128 words of a list. -/
def ofList (ws : List UInt64) : Block :=
  let r i := Row.ofList (ws.drop (16 * i))
  ⟨r 0, r 1, r 2, r 3, r 4, r 5, r 6, r 7⟩

def toList (b : Block) : List UInt64 :=
  [b.r0, b.r1, b.r2, b.r3, b.r4, b.r5, b.r6, b.r7].flatMap Row.toList

/-- The exclusive or, word by word. -/
def xor (b c : Block) : Block :=
  ⟨b.r0.xor c.r0, b.r1.xor c.r1, b.r2.xor c.r2, b.r3.xor c.r3,
   b.r4.xor c.r4, b.r5.xor c.r5, b.r6.xor c.r6, b.r7.xor c.r7⟩

/-- Every row mixed. -/
def mixRows (b : Block) : Block :=
  ⟨b.r0.mix, b.r1.mix, b.r2.mix, b.r3.mix, b.r4.mix, b.r5.mix, b.r6.mix, b.r7.mix⟩

/-- The pairs of words with rows and columns exchanged. -/
def transpose (b : Block) : Block :=
  let ⟨r0, r1, r2, r3, r4, r5, r6, r7⟩ := b
  ⟨⟨r0.v0, r0.v1, r1.v0, r1.v1, r2.v0, r2.v1, r3.v0, r3.v1, r4.v0, r4.v1,
    r5.v0, r5.v1, r6.v0, r6.v1, r7.v0, r7.v1⟩,
   ⟨r0.v2, r0.v3, r1.v2, r1.v3, r2.v2, r2.v3, r3.v2, r3.v3, r4.v2, r4.v3,
    r5.v2, r5.v3, r6.v2, r6.v3, r7.v2, r7.v3⟩,
   ⟨r0.v4, r0.v5, r1.v4, r1.v5, r2.v4, r2.v5, r3.v4, r3.v5, r4.v4, r4.v5,
    r5.v4, r5.v5, r6.v4, r6.v5, r7.v4, r7.v5⟩,
   ⟨r0.v6, r0.v7, r1.v6, r1.v7, r2.v6, r2.v7, r3.v6, r3.v7, r4.v6, r4.v7,
    r5.v6, r5.v7, r6.v6, r6.v7, r7.v6, r7.v7⟩,
   ⟨r0.v8, r0.v9, r1.v8, r1.v9, r2.v8, r2.v9, r3.v8, r3.v9, r4.v8, r4.v9,
    r5.v8, r5.v9, r6.v8, r6.v9, r7.v8, r7.v9⟩,
   ⟨r0.v10, r0.v11, r1.v10, r1.v11, r2.v10, r2.v11, r3.v10, r3.v11, r4.v10, r4.v11,
    r5.v10, r5.v11, r6.v10, r6.v11, r7.v10, r7.v11⟩,
   ⟨r0.v12, r0.v13, r1.v12, r1.v13, r2.v12, r2.v13, r3.v12, r3.v13, r4.v12, r4.v13,
    r5.v12, r5.v13, r6.v12, r6.v13, r7.v12, r7.v13⟩,
   ⟨r0.v14, r0.v15, r1.v14, r1.v15, r2.v14, r2.v15, r3.v14, r3.v15, r4.v14, r4.v15,
    r5.v14, r5.v15, r6.v14, r6.v15, r7.v14, r7.v15⟩⟩

/-- The new block: the exclusive or of two blocks, and the same mixed by rows and by columns. -/
def fill (previous reference : Block) : Block :=
  let r := previous.xor reference
  r.xor r.mixRows.transpose.mixRows.transpose

end Block

end AccountSecurity.Argon2
