/-! # Regular expressions

Regular expressions that samples are matched against. They are no patterns: they have their own grammar,
know all the usual escapes, and nothing is drawn from them.
-/

namespace PatternSampler

inductive CharSet where
  | nothing
  | range (lo hi : Char)
  | either (a b : CharSet)
  | both (a b : CharSet)
  | complement (a : CharSet)
  deriving Repr, DecidableEq

namespace CharSet

def single (c : Char) : CharSet := range c c

def without (a b : CharSet) : CharSet := both a (complement b)

/-- What is in only one of the sets. -/
def oneOf (a b : CharSet) : CharSet := either (without a b) (without b a)

def contains : CharSet → Char → Bool
  | nothing, _ => false
  | range lo hi, c => lo ≤ c && c ≤ hi
  | either a b, c => a.contains c || b.contains c
  | both a b, c => a.contains c && b.contains c
  | complement a, c => !a.contains c

end CharSet

inductive Regex where
  | empty
  | one (s : CharSet)
  | textStart
  | textEnd
  | append (r s : Regex)
  | either (r s : Regex)
  /-- Copies in a row, at least `min` and, if there is a maximum, at most `max`. -/
  | repeated (r : Regex) (min : Nat) (max : Option Nat)
  deriving Repr, DecidableEq

end PatternSampler
