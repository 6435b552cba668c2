import PatternSampler.Random.Source

/-! # Seeded sources

A 64-bit seed is spread over the eight words of a key by a congruential generator, and the key drives
ChaCha with twelve rounds. The draws are the words of its blocks, in order, with a 64-bit block counter
that starts at zero. A block is worked on as four rows of four words, so that a round on the columns
is one operation on whole rows, and a round on the diagonals is the same with the rows turned.
-/

namespace PatternSampler

namespace ChaCha

/-- Four words side by side. -/
structure Row where
  a : UInt32
  b : UInt32
  c : UInt32
  d : UInt32
  deriving Repr, DecidableEq

namespace Row

def add (x y : Row) : Row := ⟨x.a + y.a, x.b + y.b, x.c + y.c, x.d + y.d⟩

def xor (x y : Row) : Row := ⟨x.a ^^^ y.a, x.b ^^^ y.b, x.c ^^^ y.c, x.d ^^^ y.d⟩

def rotateWord (v : UInt32) (places : UInt32) : UInt32 := (v <<< places) ||| (v >>> (32 - places))

def rotateWords (x : Row) (places : UInt32) : Row :=
  ⟨rotateWord x.a places, rotateWord x.b places, rotateWord x.c places, rotateWord x.d places⟩

def turn (x : Row) : Row := ⟨x.b, x.c, x.d, x.a⟩

def toList (x : Row) : List UInt32 := [x.a, x.b, x.c, x.d]

end Row

structure Block where
  r0 : Row
  r1 : Row
  r2 : Row
  r3 : Row
  deriving Repr, DecidableEq

namespace Block

def add (x y : Block) : Block := ⟨x.r0.add y.r0, x.r1.add y.r1, x.r2.add y.r2, x.r3.add y.r3⟩

def words (x : Block) : List UInt32 :=
  x.r0.toList ++ x.r1.toList ++ x.r2.toList ++ x.r3.toList

/-- A round on the four columns. -/
def columnRound (x : Block) : Block :=
  let r0 := x.r0.add x.r1
  let r3 := (x.r3.xor r0).rotateWords 16
  let r2 := x.r2.add r3
  let r1 := (x.r1.xor r2).rotateWords 12
  let r0 := r0.add r1
  let r3 := (r3.xor r0).rotateWords 8
  let r2 := r2.add r3
  let r1 := (r1.xor r2).rotateWords 7
  ⟨r0, r1, r2, r3⟩

/-- Bring the diagonals into columns. -/
def skew (x : Block) : Block := ⟨x.r0, x.r1.turn, x.r2.turn.turn, x.r3.turn.turn.turn⟩

/-- Bring the columns back into diagonals. -/
def unskew (x : Block) : Block := ⟨x.r0, x.r1.turn.turn.turn, x.r2.turn.turn, x.r3.turn⟩

/-- A round on the columns and one on the diagonals. -/
def doubleRound (x : Block) : Block := x.columnRound.skew.columnRound.unskew

def doubleRounds : Nat → Block → Block
  | 0, x => x
  | n + 1, x => doubleRounds n x.doubleRound

end Block

/-- Half the number of rounds. -/
def roundPairs : Nat := 6

/-- The first row of every block. -/
def constants : Row := ⟨0x61707865, 0x3320646e, 0x79622d32, 0x6b206574⟩

/-- The block with a given number: the words before the rounds added to those after them. -/
def block (keyLow keyHigh : Row) (number : UInt64) : Block :=
  let start : Block :=
    ⟨constants, keyLow, keyHigh, ⟨number.toUInt32, (number >>> 32).toUInt32, 0, 0⟩⟩
  start.add (start.doubleRounds roundPairs)

end ChaCha

/-- A seeded source: its key, the words left of the current block, and how many blocks came. -/
structure Seeded where
  keyLow : ChaCha.Row
  keyHigh : ChaCha.Row
  words : List UInt32
  blocks : Nat
  deriving Repr, DecidableEq

namespace Seeded

/-- One step of the generator that spreads a seed. -/
def spreadStep (state : UInt64) : UInt64 := state * 6364136223846793005 + 11634580027462260723

/-- The word that a state of the spreading generator gives: the turned high bits of the state. -/
def spreadWord (state : UInt64) : UInt32 :=
  let x := (((state >>> 18) ^^^ state) >>> 27).toUInt32
  let places := (state >>> 59).toUInt32
  (x >>> places) ||| (x <<< ((32 - places) % 32))

/-- Four words in a row from a state, and the state after them. -/
def spreadRow (state : UInt64) : ChaCha.Row × UInt64 :=
  let s1 := spreadStep state
  let s2 := spreadStep s1
  let s3 := spreadStep s2
  let s4 := spreadStep s3
  (⟨spreadWord s1, spreadWord s2, spreadWord s3, spreadWord s4⟩, s4)

/-- The source of a seed. -/
def ofSeed (seed : UInt64) : Seeded :=
  let (keyLow, state) := spreadRow seed
  let (keyHigh, _) := spreadRow state
  ⟨keyLow, keyHigh, [], 0⟩

def blockLimit : Nat := UInt64.size

def next? (s : Seeded) : Option (UInt32 × Seeded) :=
  match s.words with
  | v :: words => some (v, { s with words })
  | [] =>
    if s.blocks < blockLimit then
      match (ChaCha.block s.keyLow s.keyHigh (UInt64.ofNat s.blocks)).words with
      | v :: words => some (v, { s with words, blocks := s.blocks + 1 })
      | [] => none
    else none

def remaining (s : Seeded) : Nat := s.words.length + 16 * (blockLimit - s.blocks)

theorem remaining_lt {s s' : Seeded} {v : UInt32} (h : s.next? = some (v, s')) :
    s'.remaining < s.remaining := by
  simp only [next?] at h
  split at h
  · rename_i w ws hw
    simp only [Option.some.injEq, Prod.mk.injEq] at h
    obtain ⟨_, rfl⟩ := h
    simp [remaining, hw]
  · rename_i hw
    split at h
    · rename_i hb
      simp only [ChaCha.Block.words, ChaCha.Row.toList, List.cons_append, List.nil_append,
        Option.some.injEq, Prod.mk.injEq] at h
      obtain ⟨_, rfl⟩ := h
      simp only [remaining, hw, List.length_cons, List.length_nil]
      omega
    · simp at h

instance : DrawSource Seeded where
  next? := next?
  remaining := remaining
  remaining_lt := remaining_lt

end Seeded

end PatternSampler
