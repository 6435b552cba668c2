/-! # Whole numbers in decimal digits

A number is one or more ASCII digits, with any number of leading zeros. A plus sign may come first, and
for numbers that may be negative a minus sign.
-/

namespace PatternSampler.Text

def isDigit (c : Char) : Bool := '0' ≤ c && c ≤ '9'

/-- The number that digits stand for, most significant first. -/
def digitsValue (digits : List Char) : Nat :=
  digits.foldl (fun value c => 10 * value + (c.toNat - '0'.toNat)) 0

/-- The number that is written with digits alone. -/
def digits? (cs : List Char) : Option Nat :=
  if cs ≠ [] ∧ cs.all isDigit then some (digitsValue cs) else none

/-- A number with an optional plus sign, and at most `largest`. -/
def natural? (largest : Nat) (s : String) : Option Nat :=
  let digits :=
    match s.toList with
    | '+' :: cs => digits? cs
    | cs => digits? cs
  digits.filter (· ≤ largest)

/-- A number with an optional sign, from `smallest` to `largest`. -/
def integer? (smallest largest : Int) (s : String) : Option Int :=
  let number : Option Int :=
    match s.toList with
    | '+' :: cs => (digits? cs).map Int.ofNat
    | '-' :: cs => (digits? cs).map (- Int.ofNat ·)
    | cs => (digits? cs).map Int.ofNat
  number.filter fun n => smallest ≤ n && n ≤ largest

def word64Max : Nat := UInt64.size - 1

def word64? (s : String) : Option Nat := natural? word64Max s

/-- How many numbers of 64 bits are below zero, if one bit is for the sign. -/
def signed64Half : Nat := UInt64.size / 2

/-- A number of 64 bits, one of them for the sign. -/
def signed64? (s : String) : Option Int := integer? (-signed64Half) (signed64Half - 1) s

end PatternSampler.Text
