import PatternSampler.Regex

/-! # Matching of regular expressions

A text of `n` characters has `n + 1` places: before each character, and at the end. From every place an
expression can lead to some places, after what it matches. All places that are reached are followed at
once, so nothing is ever tried twice. A set of places is a number with one bit for each place.
-/

namespace PatternSampler

/-- A set of places in a text. -/
abbrev Places := Nat

namespace Regex

/-- The places right before a character of the set. -/
def placesBefore (text : Array Char) (s : CharSet) : Places :=
  text.foldr (fun c places => 2 * places + (s.contains c).toNat) 0

/-- Where exactly `n` steps lead. Once a step changes nothing, no further one does. -/
def exactSteps (step : Places → Places) : Nat → Places → Places
  | 0, places => places
  | n + 1, places =>
    let next := step places
    if next = places then places else exactSteps step n next

/-- Where up to `n` steps lead. -/
def upToSteps (step : Places → Places) : Nat → Places → Places
  | 0, places => places
  | n + 1, places =>
    let next := places ||| step places
    if next = places then places else upToSteps step n next

/-- Where an expression leads from some places. Copies above the minimum that match nothing lead nowhere
    new, so without a maximum as many are enough as the text has characters. -/
def reach (text : Array Char) : Regex → Places → Places
  | empty, places => places
  | one s, places => (places &&& placesBefore text s) <<< 1
  | textStart, places => places &&& 1
  | textEnd, places => places &&& 1 <<< text.size
  | append r s, places => s.reach text (r.reach text places)
  | either r s, places => r.reach text places ||| s.reach text places
  | repeated r min max, places =>
    let more := (max.map (· - min)).getD text.size
    upToSteps (r.reach text) more (exactSteps (r.reach text) min places)

/-- Whether the expression matches the whole text. -/
def isMatch (r : Regex) (text : String) : Bool :=
  let text := text.toList.toArray
  (r.reach text 1).testBit text.size

end Regex

end PatternSampler
