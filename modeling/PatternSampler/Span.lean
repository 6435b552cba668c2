/-! # Byte ranges of a pattern

A span says where a piece of a pattern stands in its source. Offsets count UTF-8 bytes, and the
range is half open. Nothing in this library asks that a span fits a source: a reading takes the
spans of its tokens as they are given.
-/

namespace PatternSampler

/-- The bytes from `start` up to, but not including, `stop`. -/
structure Span where
  start : Nat
  stop : Nat
  deriving Repr, DecidableEq, Inhabited

namespace Span

/-- The empty span at `offset`. -/
def emptyAt (offset : Nat) : Span := ⟨offset, offset⟩

def through (first last : Span) : Span := ⟨first.start, last.stop⟩

/-- Both ends with two dots between them, as in `3..5`. -/
def text (span : Span) : String := toString span.start ++ ".." ++ toString span.stop

end Span

end PatternSampler
