import PatternSampler.Generator
import PatternSampler.Regex.Matching
import PatternSampler.Regex.Reader
import PatternSampler.Text.Quoted

/-! # Assertions over samples

An assertion holds one sample of a tree for each seed of a range. Checks look at all of the samples,
in the order of their seeds, and a check that fails names the first sample that is at fault. Changing
the range or the configuration draws all samples anew.
-/

namespace PatternSampler

/-- Why a check failed. -/
inductive CheckFailure where
  | differs (seed : UInt64) (sample expected : String)
  | unmatched (seed : UInt64) (sample expression : String)
  /-- A text that samples are to match is no regular expression. -/
  | invalidExpression (expression : String)
  | unsatisfied (seed : UInt64) (sample description : String)
  /-- The length of a sample lies outside of the range from `lo` to `hi`. -/
  | badLength (seed : UInt64) (sample : String) (lo hi : Nat)
  /-- An expected text is not among the samples. -/
  | uncovered (value : String) (first stop : UInt64) (seen : List String)
  | notReproducible (seed : UInt64) (again sample : String)
  | fault (cause : Fault)
  deriving Repr, DecidableEq

namespace CheckFailure

def inequality (note left right : String) : String :=
  "assertion `left == right` failed: " ++ note ++ "\n  left: " ++ Text.quoted left
    ++ "\n right: " ++ Text.quoted right

/-- How the message about a sample begins. -/
def aboutSample (seed : UInt64) (sample : String) : String :=
  "seed " ++ toString seed.toNat ++ ": " ++ Text.quoted sample

def message : CheckFailure → String
  | differs seed sample expected => inequality ("seed " ++ toString seed.toNat) sample expected
  | unmatched seed sample expression =>
    aboutSample seed sample ++ " does not match " ++ Text.quoted expression
  | invalidExpression expression => "invalid assertion pattern " ++ Text.quoted expression
  | unsatisfied seed sample description => aboutSample seed sample ++ " fails: " ++ description
  | badLength seed sample lo hi =>
    aboutSample seed sample ++ " has length " ++ toString sample.length ++ ", expected "
      ++ toString lo ++ "..=" ++ toString hi
  | uncovered value first stop seen =>
    Text.quoted value ++ " never generated over seeds " ++ toString first.toNat ++ ".."
      ++ toString stop.toNat ++ "; saw " ++ Text.quotedSet seen
  | notReproducible seed again sample =>
    inequality ("seed " ++ toString seed.toNat ++ " is not reproducible") again sample
  | fault cause => cause.message

end CheckFailure

/-- Samples of a generator, one for each seed from `first` up to, but not including, `stop`. -/
structure Assertion where
  generator : Generator
  first : UInt64
  stop : UInt64
  samples : List (UInt64 × String)
  deriving Repr, DecidableEq

namespace Assertion

/-- The seeds from `first` up to, but not including, `stop`, in increasing order. -/
def seedsBetween (first stop : UInt64) : List UInt64 :=
  (List.range (stop.toNat - first.toNat)).map fun n => first + UInt64.ofNat n

def sampleOf (g : Generator) (seed : UInt64) : Except CheckFailure (UInt64 × String) :=
  match g.generate seed with
  | .error e => .error (.fault e)
  | .ok text => .ok (seed, text)

def draw (g : Generator) (first stop : UInt64) : Except CheckFailure Assertion := do
  return ⟨g, first, stop, ← (seedsBetween first stop).mapM (sampleOf g)⟩

/-- The range of seeds that an assertion starts with. -/
def defaultSeeds : UInt64 × UInt64 := (0, 200)

def ofTree (t : Tree) : Except CheckFailure Assertion :=
  draw ⟨t, defaultExtra⟩ defaultSeeds.1 defaultSeeds.2

def withExtra (a : Assertion) (extra : UInt32) : Except CheckFailure Assertion :=
  draw (a.generator.withExtra extra) a.first a.stop

def seeds (a : Assertion) (first stop : UInt64) : Except CheckFailure Assertion :=
  draw a.generator first stop

def firstFailure (a : Assertion) (failure? : UInt64 → String → Option CheckFailure) :
    Except CheckFailure Assertion :=
  match a.samples.findSome? fun (seed, sample) => failure? seed sample with
  | some failure => .error failure
  | none => .ok a

def always (a : Assertion) (expected : String) : Except CheckFailure Assertion :=
  a.firstFailure fun seed sample =>
    if sample = expected then none else some (.differs seed sample expected)

def allMatch (a : Assertion) (expression : String) : Except CheckFailure Assertion :=
  match Regex.ofText? expression with
  | none => .error (.invalidExpression expression)
  | some r => a.firstFailure fun seed sample =>
    if r.isMatch sample then none else some (.unmatched seed sample expression)

/-- Every sample is as the description says. -/
def allSatisfy (a : Assertion) (description : String) (holds : String → Bool) :
    Except CheckFailure Assertion :=
  a.firstFailure fun seed sample =>
    if holds sample then none else some (.unsatisfied seed sample description)

def lengthsWithin (a : Assertion) (lo hi : Nat) : Except CheckFailure Assertion :=
  a.firstFailure fun seed sample =>
    if lo ≤ sample.length ∧ sample.length ≤ hi then none else some (.badLength seed sample lo hi)

/-- The different samples in increasing order. -/
def seen (a : Assertion) : List String :=
  ((a.samples.map (·.2)).mergeSort fun s t => !(t < s)).eraseReps

def covers (a : Assertion) (expected : List String) : Except CheckFailure Assertion :=
  match expected.find? fun value => !(a.samples.map (·.2)).contains value with
  | some value => .error (.uncovered value a.first a.stop a.seen)
  | none => .ok a

/-- Drawing again with the same seeds gives the same texts. -/
def isDeterministic (a : Assertion) : Except CheckFailure Assertion :=
  a.firstFailure fun seed sample =>
    match a.generator.generate seed with
    | .error e => some (.fault e)
    | .ok again => if again = sample then none else some (.notReproducible seed again sample)

end Assertion

inductive Check where
  | extra (extra : UInt32)
  | seeds (first stop : UInt64)
  | always (expected : String)
  | allMatch (expression : String)
  | allSatisfy (description : String) (holds : String → Bool)
  | lengthsWithin (lo hi : Nat)
  | covers (expected : List String)
  | isDeterministic

namespace Check

def isAscii (s : String) : Bool := s.toList.all (·.toNat < 0x80)

def apply (a : Assertion) : Check → Except CheckFailure Assertion
  | extra n => a.withExtra n
  | seeds first stop => a.seeds first stop
  | always expected => a.always expected
  | allMatch expression => a.allMatch expression
  | allSatisfy description holds => a.allSatisfy description holds
  | lengthsWithin lo hi => a.lengthsWithin lo hi
  | covers expected => a.covers expected
  | isDeterministic => a.isDeterministic

end Check

end PatternSampler
