import PatternSampler.Random.Source

/-! # Picks from a range

A drawn number is scaled to a range of `size` values by multiplying: the high part of the product is
the value picked, and the draw is rejected when the low part lies above the zone of the range. The zone
leaves the same number of draws for every value. Counts and indices use the largest zone of the form
`size * 2 ^ k - 1`, which takes no division; characters use the largest zone there is.

A number of 32 bits is one raw draw, which is enough for counts, for characters and for places among
fewer than `2 ^ 32`. A place among more takes as many raw draws as the number of places has words.
-/

namespace PatternSampler

namespace Pick

/-- What a number of so many `bits` comes to in a range of `size` values; none when it is rejected. -/
def accept (bits size zone v : Nat) : Option Nat :=
  let product := v * size
  if product % Nat.pow 2 bits ≤ zone then some (product / Nat.pow 2 bits) else none

/-- The zone of a range of numbers: `size`, doubled as often as it fits into `bits`, less one. -/
def numberZone (bits size : Nat) : Nat := size * Nat.pow 2 (bits - 1 - size.log2) - 1

/-- The zone of a range of characters: the largest multiple of `size` that fits, less one. -/
def charZone (size : Nat) : Nat := UInt32.size - 1 - (UInt32.size - size) % size

/-- The number from `lo` to `hi`, both included, that a raw draw comes to. -/
def numberOf? (lo hi v : Nat) : Option Nat :=
  let size := hi - lo + 1
  (lo + ·) <$> accept 32 size (numberZone 32 size) v

/-- Pick a number from `lo` to `hi`, both included. Even a single value costs a draw. -/
def number {σ : Type} [DrawSource σ] (lo hi : Nat) (s : σ) : Except Fault (Nat × σ) :=
  if hi < lo then .error .emptyRange else drawUntil 0 (numberOf? lo hi) s

/-- How many draws it takes to make up a place among `count`, the first one apart. -/
def moreDraws (count : Nat) : Nat := count.log2 / 32

/-- The place among `count` that a number of `more + 1` draws comes to. -/
def placeOf? (more count v : Nat) : Option Nat :=
  let bits := 32 * (more + 1)
  accept bits count (numberZone bits count) v

/-- Pick one of `count` places, counted from zero. -/
def place {σ : Type} [DrawSource σ] (count : Nat) (s : σ) : Except Fault (Nat × σ) :=
  if count = 0 then .error .emptyRange
  else drawUntil (moreDraws count) (placeOf? (moreDraws count) count) s

/-! ## Characters

Code points count without the gap that surrogates leave, so that a range across the gap has no
values inside it.
-/

/-- The first code point of the gap. -/
def gapStart : Nat := 0xD800

/-- How many code points the gap holds. -/
def gapSize : Nat := 0x800

/-- The place of a character among all characters. -/
def rank (c : Char) : Nat :=
  if c.toNat < gapStart + gapSize then c.toNat else c.toNat - gapSize

/-- The code point at a place among all characters. -/
def unrank (n : Nat) : Nat := if n < gapStart then n else n + gapSize

/-- The code point from `lo` to `hi`, both included, that a raw draw comes to. -/
def codePointOf? (lo hi : Char) (v : Nat) : Option Nat :=
  let size := rank hi - rank lo + 1
  (fun n => unrank (rank lo + n)) <$> accept 32 size (charZone size) v

/-- Pick a character from `lo` to `hi`, both included. -/
def char {σ : Type} [DrawSource σ] (lo hi : Char) (s : σ) : Except Fault (Char × σ) :=
  if rank hi < rank lo then .error .emptyRange
  else
    match drawUntil 0 (codePointOf? lo hi) s with
    | .error e => .error e
    | .ok (n, s) =>
      if h : n.isValidChar then .ok (Char.ofNatAux n h, s) else .error (.notACharacter n)

end Pick

end PatternSampler
