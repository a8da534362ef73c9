import Phrasebook.Random.Words

/-! # Seeded words

The words of a seed are the key stream of a ChaCha cipher with twelve rounds. The key is drawn from
the seed by a linear congruential generator whose output is permuted; the nonce is zero, and blocks
are counted by 64 bits from zero. Word `i` of the stream is word `i % 16` of block `i / 16`.
-/

namespace Phrasebook.Random

/-- Four words that the cipher works on side by side. -/
structure Lanes where
  a : UInt32
  b : UInt32
  c : UInt32
  d : UInt32
  deriving Inhabited

namespace Lanes

/-- Applies an operation lane by lane. -/
def zipWith (f : UInt32 → UInt32 → UInt32) (x y : Lanes) : Lanes :=
  ⟨f x.a y.a, f x.b y.b, f x.c y.c, f x.d y.d⟩

/-- Turns the lanes by one place to the left. -/
def turn (x : Lanes) : Lanes := ⟨x.b, x.c, x.d, x.a⟩

/-- The lanes from left to right. -/
def toList (x : Lanes) : List UInt32 := [x.a, x.b, x.c, x.d]

end Lanes

/-- Rotates a word to the left. -/
def rotateLeft (w : UInt32) (n : UInt32) : UInt32 := (w <<< n) ||| (w >>> (32 - n))

/-- Rotates a word to the right; an amount of zero leaves it alone. -/
def rotateRight (w : UInt32) (n : UInt32) : UInt32 :=
  if n = 0 then w else (w >>> n) ||| (w <<< (32 - n))

/-- The state of the cipher: four rows of four words. -/
structure Grid where
  row0 : Lanes
  row1 : Lanes
  row2 : Lanes
  row3 : Lanes
  deriving Inhabited

namespace Grid

/-- Adds `y` to `x` and folds the sum into `z`, which is then rotated by `n`. -/
def stir (x y z : Lanes) (n : UInt32) : Lanes × Lanes :=
  let sum := x.zipWith (· + ·) y
  (sum, z.zipWith (fun p q => rotateLeft (p ^^^ q) n) sum)

/-- Mixes each column of the grid. -/
def mixColumns (g : Grid) : Grid :=
  let (r0, r3) := stir g.row0 g.row1 g.row3 16
  let (r2, r1) := stir g.row2 r3 g.row1 12
  let (r0, r3) := stir r0 r1 r3 8
  let (r2, r1) := stir r2 r3 r1 7
  ⟨r0, r1, r2, r3⟩

/-- Mixes the columns, then the diagonals. -/
def doubleRound (g : Grid) : Grid :=
  let g := g.mixColumns
  let g := mixColumns ⟨g.row0, g.row1.turn, g.row2.turn.turn, g.row3.turn.turn.turn⟩
  ⟨g.row0, g.row1.turn.turn.turn, g.row2.turn.turn, g.row3.turn⟩

/-- Adds two grids word by word. -/
def add (g h : Grid) : Grid :=
  ⟨g.row0.zipWith (· + ·) h.row0, g.row1.zipWith (· + ·) h.row1, g.row2.zipWith (· + ·) h.row2,
    g.row3.zipWith (· + ·) h.row3⟩

/-- The words of a grid, row by row. -/
def toList (g : Grid) : List UInt32 :=
  g.row0.toList ++ g.row1.toList ++ g.row2.toList ++ g.row3.toList

end Grid

/-- The double rounds of one block. -/
def doubleRounds : Nat := 6

/-- The grid of a block before it is mixed: constants, key, block number and a zero nonce. -/
def startGrid (low high : Lanes) (block : UInt64) : Grid :=
  ⟨⟨0x61707865, 0x3320646E, 0x79622D32, 0x6B206574⟩, low, high,
    ⟨block.toUInt32, (block >>> 32).toUInt32, 0, 0⟩⟩

/-- The sixteen words of a block. -/
def blockWords (low high : Lanes) (block : UInt64) : List UInt32 :=
  let start := startGrid low high block
  ((Nat.repeat Grid.doubleRound doubleRounds start).add start).toList

/-- One step of the generator that spreads a seed over a key. -/
def seedStep (state : UInt64) : UInt64 := state * 6364136223846793005 + 11634580027462260723

/-- The word that a state of that generator gives. -/
def seedWord (state : UInt64) : UInt32 :=
  rotateRight (((state >>> 18) ^^^ state) >>> 27).toUInt32 (state >>> 59).toUInt32

/-- The next four words of a key, and the state behind them. -/
def seedLanes (state : UInt64) : Lanes × UInt64 :=
  let s1 := seedStep state
  let s2 := seedStep s1
  let s3 := seedStep s2
  let s4 := seedStep s3
  (⟨seedWord s1, seedWord s2, seedWord s3, seedWord s4⟩, s4)

namespace Words

/-- The words of a seed. -/
def ofSeed (seed : UInt64) : Words :=
  let (low, state) := seedLanes seed
  let (high, _) := seedLanes state
  ⟨fun i => (blockWords low high (UInt64.ofNat (i / 16))).getD (i % 16) 0, 0⟩

end Words

end Phrasebook.Random
