import PatternSampler.Text.Decimal

/-! # Binary numbers of double precision

A finite number is a mantissa below `2 ^ 53` times a power of two. A decimal number stands for the
closest of these, and for the one with an even mantissa when two are equally close; what is too large
stands for infinity. All of it is exact arithmetic on natural numbers.
-/

namespace PatternSampler.Text

inductive Binary64 where
  | nan
  | infinite (negative : Bool)
  /-- `mantissa * 2 ^ exponent`, or its negative. The mantissa is at least `2 ^ 52` unless the exponent
      is the smallest. -/
  | finite (negative : Bool) (mantissa : Nat) (exponent : Int)
  deriving Repr, DecidableEq

namespace Binary64

/-- The closest whole number to `num / den`; of two equally close ones the even one. -/
def divToEven (num den : Nat) : Nat :=
  let q := num / den
  let r := num % den
  if 2 * r < den then q else if den < 2 * r then q + 1 else if q % 2 = 0 then q else q + 1

def scaled (num den : Nat) (e : Int) : Nat × Nat :=
  if 0 ≤ e then (num, den * Nat.pow 2 e.toNat) else (num * Nat.pow 2 (-e).toNat, den)

def minExponent : Int := -1074

def ofFraction (negative : Bool) (num den : Nat) : Binary64 :=
  let guess : Int := (num.log2 : Int) - den.log2 - 52
  let (n, d) := scaled num den guess
  let exponent := max minExponent (if n < Nat.pow 2 52 * d then guess - 1 else guess)
  let (n, d) := scaled num den exponent
  let mantissa := divToEven n d
  let (mantissa, exponent) :=
    if mantissa = Nat.pow 2 53 then (Nat.pow 2 52, exponent + 1) else (mantissa, exponent)
  if 0 ≤ exponent ∧ Nat.pow 2 1024 ≤ mantissa * Nat.pow 2 exponent.toNat then infinite negative
  else finite negative mantissa exponent

/-- The closest number to `digits * 10 ^ exponent`. What is far out of range is settled by its
    magnitude alone. -/
def ofDecimal (negative : Bool) (digits : Nat) (exponent : Int) : Binary64 :=
  let magnitude : Int := (Nat.toDigits 10 digits).length + exponent
  if digits = 0 ∨ magnitude < -400 then finite negative 0 0
  else if 400 < magnitude then infinite negative
  else if 0 ≤ exponent then ofFraction negative (digits * Nat.pow 10 exponent.toNat) 1
  else ofFraction negative digits (Nat.pow 10 (-exponent).toNat)

/-- The number as a fraction, without its sign. -/
def fraction (mantissa : Nat) (exponent : Int) : Nat × Nat :=
  if 0 ≤ exponent then (mantissa * Nat.pow 2 exponent.toNat, 1) else (mantissa, Nat.pow 2 (-exponent).toNat)

/-- The closest whole number that `largest` allows. A half goes away from zero, what is below zero
    gives zero, and so does what is no number. -/
def toNatural (largest : Nat) : Binary64 → Nat
  | nan => 0
  | infinite negative => if negative then 0 else largest
  | finite true _ _ => 0
  | finite false mantissa exponent =>
    let (num, den) := fraction mantissa exponent
    min ((2 * num + den) / (2 * den)) largest

/-! ## Reading -/

def takeDigits (cs : List Char) : List Char × List Char := cs.span isDigit

def exponent? : List Char → Option Int
  | '+' :: cs => (digits? cs).map Int.ofNat
  | '-' :: cs => (digits? cs).map (- Int.ofNat ·)
  | cs => (digits? cs).map Int.ofNat

/-- A number without its sign: digits with an optional point before, among or after them, and an
    optional exponent. -/
def unsigned? (negative : Bool) (cs : List Char) : Option Binary64 :=
  let (whole, rest) := takeDigits cs
  let (part, rest) :=
    match rest with
    | '.' :: rest => takeDigits rest
    | rest => ([], rest)
  if whole.isEmpty && part.isEmpty then none
  else
    let value (e : Int) := ofDecimal negative (digitsValue (whole ++ part)) (e - part.length)
    match rest with
    | [] => some (value 0)
    | mark :: rest => if mark = 'e' ∨ mark = 'E' then (exponent? rest).map value else none

/-- A number with an optional sign. Infinity and what is no number are words, in any case. -/
def ofText? (s : String) : Option Binary64 :=
  let (negative, cs) :=
    match s.toList with
    | '-' :: cs => (true, cs)
    | '+' :: cs => (false, cs)
    | cs => (false, cs)
  let word := String.ofList (cs.map Char.toLower)
  if word = "nan" then some nan
  else if word = "inf" ∨ word = "infinity" then some (infinite negative)
  else unsigned? negative cs

/-! ## Writing -/

/-- How many digits the whole part of `num / den` has, or minus the number of zeros after the point. -/
def magnitude (num den : Nat) : Int :=
  if den ≤ num then (Nat.toDigits 10 (num / den)).length
  else 1 - (Nat.toDigits 10 ((den + num - 1) / num - 1)).length

/-- The decimal with `count` digits that is closest to a finite number, or else the one on its other
    side, if it reads back as this number: its digits and its exponent. Of two that are equally close
    the larger one comes first. -/
def decimal? (mantissa : Nat) (exponent : Int) (count : Nat) : Option (Nat × Int) :=
  let (num, den) := fraction mantissa exponent
  let e := magnitude num den - count
  let (n, d) := if 0 ≤ e then (num, den * Nat.pow 10 e.toNat) else (num * Nat.pow 10 (-e).toNat, den)
  let below := n / d
  let reads (digits : Nat) := ofDecimal false digits e == ofFraction false num den
  let byCloseness := if 2 * (n % d) < d then [below, below + 1] else [below + 1, below]
  (byCloseness.find? reads).map (·, e)

/-- `digits * 10 ^ e` with a point that has a digit on both sides. Zeros that the point does not need
    are left out. -/
def positional (digits : Nat) (e : Int) : String :=
  let zeros := ((Nat.toDigits 10 digits).reverse.takeWhile (· = '0')).length
  let ds := Nat.toDigits 10 (digits / Nat.pow 10 zeros)
  let e := e + zeros
  if 0 ≤ e then String.ofList (ds ++ List.replicate e.toNat '0') ++ ".0"
  else
    let places := (-e).toNat
    let ds := List.replicate (places + 1 - ds.length) '0' ++ ds
    String.ofList (ds.take (ds.length - places)) ++ "."
      ++ String.ofList (ds.drop (ds.length - places))

/-- The number with the fewest digits that read back, never with an exponent. -/
def text : Binary64 → String
  | nan => "NaN"
  | infinite negative => if negative then "-inf" else "inf"
  | finite negative mantissa exponent =>
    (if negative then "-" else "") ++
      if mantissa = 0 then "0.0"
      else
        match (List.range 17).findSome? fun n => decimal? mantissa exponent (n + 1) with
        | some (digits, e) => positional digits e
        | none => "0.0"

end Binary64

end PatternSampler.Text
