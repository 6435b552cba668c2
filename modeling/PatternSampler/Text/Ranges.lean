/-! # Ranges of code points

Classes of characters are kept as ranges of code points in increasing order that do not meet, each by
its first and last one.
-/

namespace PatternSampler.Text

def inRanges (ranges : Array (Nat × Nat)) (c : Char) : Bool :=
  ranges.any fun (first, last) => first ≤ c.toNat && c.toNat ≤ last

end PatternSampler.Text
