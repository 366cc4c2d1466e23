import AccountSecurity.Crypto.Argon2Block

/-!
# The memory-hard password hash

`Argon2.digest` fills a memory of blocks in several passes and digests the last column.

* `Params` : the variant, the version and the three costs;
* `Geometry` : the memory as lanes of four segments;
* `referenceIndex` : which earlier block a new block is mixed with;
* `fillMemory` : all passes over the memory.
-/

namespace AccountSecurity.Argon2
open Blake2b (littleEndian)

/-- How the reference blocks are chosen: by the data, by position, or first by position. -/
inductive Kind where
  | dependent
  | independent
  | hybrid
deriving DecidableEq, Repr

/-- The number of a variant within the hash. -/
def Kind.code : Kind → Nat
  | .dependent => 0
  | .independent => 1
  | .hybrid => 2

/-- What a hash depends on besides the password and the salt; the memory is given in KiB. -/
structure Params where
  kind : Kind
  version : Nat
  memory : Nat
  passes : Nat
  lanes : Nat
deriving DecidableEq, Repr

/-- Later passes of this version replace a block, and do not mix into it. -/
def replacingVersion : Nat := 0x10

/-- The version that hashes are made with. -/
def currentVersion : Nat := 0x13

/-- The most memory that can be asked for, in KiB. -/
def maxMemory : Nat := Nat.pow 2 32 - 1

/-- The most passes. -/
def maxPasses : Nat := Nat.pow 2 32 - 1

/-- The most lanes. -/
def maxLanes : Nat := Nat.pow 2 24 - 1

/-! ## Digests of any length -/

/-- Digests of digests, half of each for output, until the rest fits into one digest. -/
def expand : (rounds : Nat) → (left : Nat) → (seed : List UInt8) → List UInt8
  | 0, _, seed => seed
  | rounds + 1, left, seed =>
    if left ≤ 64 then seed.take 32 ++ Blake2b.digest left seed
    else seed.take 32 ++ expand rounds (left - 32) (Blake2b.digest 64 seed)

/-- A digest of any length. -/
def longDigest (size : Nat) (message : List UInt8) : List UInt8 :=
  let message := littleEndian 4 size ++ message
  if size ≤ 64 then Blake2b.digest size message
  else expand size (size - 32) (Blake2b.digest 64 message)

/-- A list of bytes behind its length. -/
def measured (bytes : List UInt8) : List UInt8 := littleEndian 4 bytes.length ++ bytes

/-- The digest of all inputs. -/
def inputDigest (p : Params) (size : Nat) (password salt : List UInt8) : List UInt8 :=
  Blake2b.digest 64 <|
    [p.lanes, size, p.memory, p.passes, p.version, p.kind.code].flatMap (littleEndian 4) ++
      measured password ++ measured salt ++ measured [] ++ measured []

/-- The words of a list of bytes. -/
def words (bytes : List UInt8) : List UInt64 :=
  (List.range (bytes.length / 8)).map fun i => Blake2b.word ((bytes.drop (8 * i)).take 8)

/-! ## The memory -/

/-- Lanes of four segments of blocks. -/
structure Geometry where
  lanes : Nat
  segment : Nat

namespace Geometry

/-- The geometry of as much of the memory as the lanes divide. -/
def of (p : Params) : Geometry := ⟨p.lanes, p.memory / (4 * p.lanes)⟩

/-- Blocks in a lane. -/
def lane (g : Geometry) : Nat := 4 * g.segment

/-- Blocks in all. -/
def size (g : Geometry) : Nat := g.lanes * g.lane

end Geometry

/-- A segment in a pass. -/
structure Stretch where
  pass : Nat
  slice : Nat
  lane : Nat

/-- The reference blocks of the segment are chosen by position. -/
def Stretch.isIndependent (s : Stretch) : Kind → Bool
  | .dependent => false
  | .independent => true
  | .hybrid => s.pass == 0 && s.slice < 2

/-- How many blocks may be referred to from position `index` of a segment. -/
def referenceArea (g : Geometry) (s : Stretch) (index : Nat) (sameLane : Bool) : Nat :=
  let finished := if s.pass = 0 then s.slice * g.segment else g.lane - g.segment
  if sameLane then finished + index - 1
  else if index = 0 then finished - 1 else finished

/-- The block of the reference area that a random half word chooses; recent ones are more likely. -/
def referenceIndex (g : Geometry) (s : Stretch) (index : Nat) (random : Nat) (sameLane : Bool) : Nat :=
  let area := referenceArea g s index sameLane
  let bent := random * random / Nat.pow 2 32
  let start := if s.pass = 0 ∨ s.slice = 3 then 0 else (s.slice + 1) * g.segment
  (start + (area - 1 - area * bent / Nat.pow 2 32)) % g.lane

/-- The words that choose the reference blocks by position, 128 at a time. -/
def addressWords (p : Params) (g : Geometry) (s : Stretch) (counter : Nat) : Array UInt64 :=
  let input := [s.pass, s.lane, s.slice, g.size, p.passes, p.kind.code, counter]
  let block := Block.ofList (input.map UInt64.ofNat)
  ((Block.zero.fill (Block.zero.fill block)).toList).toArray

/-- The memory, and the address words in use. -/
structure Filling where
  memory : Array Block
  addresses : Array UInt64

/-- Fills the block at position `index` of a segment. -/
def fillBlock (p : Params) (g : Geometry) (s : Stretch) (f : Filling) (index : Nat) : Filling :=
  let independent := s.isIndependent p.kind
  let isFirst := s.pass == 0 && s.slice == 0
  let ⟨memory, addresses⟩ := f
  let addresses :=
    if independent && (index % 128 == 0 || (isFirst && index == 2)) then
      addressWords p g s (index / 128 + 1)
    else addresses
  let column := s.slice * g.segment + index
  let base := s.lane * g.lane
  let previous := memory.getD (base + (column + g.lane - 1) % g.lane) Block.zero
  let random := if independent then addresses.getD (index % 128) 0 else previous.r0.v0
  let lane := if isFirst then s.lane else (random >>> 32).toNat % g.lanes
  let chosen := referenceIndex g s index (random &&& 0xFFFFFFFF).toNat (lane == s.lane)
  let block := previous.fill (memory.getD (lane * g.lane + chosen) Block.zero)
  let block :=
    if s.pass = 0 ∨ p.version = replacingVersion then block
    else block.xor (memory.getD (base + column) Block.zero)
  ⟨memory.setIfInBounds (base + column) block, addresses⟩

/-- Fills a segment; the first two blocks of a lane are there from the beginning. -/
def fillSegment (p : Params) (g : Geometry) (memory : Array Block) (s : Stretch) : Array Block :=
  let first := if s.pass = 0 ∧ s.slice = 0 then 2 else 0
  let filling := (List.range' first (g.segment - first)).foldl (fillBlock p g s) ⟨memory, #[]⟩
  filling.memory

/-- The segments in the order in which they are filled. -/
def stretches (p : Params) : List Stretch :=
  (List.range p.passes).flatMap fun pass =>
    (List.range 4).flatMap fun slice => (List.range p.lanes).map fun lane => ⟨pass, slice, lane⟩

/-- The memory with the first two blocks of every lane. -/
def initialMemory (g : Geometry) (seed : List UInt8) : Array Block :=
  (List.range g.lanes).foldl
    (fun memory lane =>
      (List.range 2).foldl
        (fun memory column =>
          memory.setIfInBounds (lane * g.lane + column) <| Block.ofList <| words <|
            longDigest 1024 (seed ++ littleEndian 4 column ++ littleEndian 4 lane))
        memory)
    (Array.replicate g.size Block.zero)

/-- The memory after all passes. -/
def fillMemory (p : Params) (g : Geometry) (seed : List UInt8) : Array Block :=
  (stretches p).foldl (fillSegment p g) (initialMemory g seed)

/-- The digest of a password and a salt. -/
def digest (p : Params) (size : Nat) (password salt : List UInt8) : List UInt8 :=
  let g := Geometry.of p
  let memory := fillMemory p g (inputDigest p size password salt)
  let last := (List.range g.lanes).foldl
    (fun b lane => b.xor (memory.getD (lane * g.lane + (g.lane - 1)) Block.zero)) Block.zero
  longDigest size (last.toList.flatMap fun w => littleEndian 8 w.toNat)

end AccountSecurity.Argon2
