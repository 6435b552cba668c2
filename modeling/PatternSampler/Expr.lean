import PatternSampler.Token

/-! # Expression trees of patterns

An expression tree is a pattern as it is written: every construct keeps the span that it was read
from, sets keep their items in order, and branches may be empty. Whether the pattern makes sense, say
whether a range is in order, is not asked here.
-/

namespace PatternSampler

inductive SetItem where
  /-- A token that stands for itself, metacharacters included. -/
  | single (token : Token)
  /-- Two boundaries with a dash between them. -/
  | range (first last : Token) (span : Span)
  deriving Repr, DecidableEq

/-- How often a quantifier lets its atom occur. No maximum means that there is no upper limit. -/
structure Bounds where
  min : Nat
  max : Option Nat
  deriving Repr, DecidableEq

inductive Expr where
  | token (token : Token) (span : Span)
  /-- Branches in parentheses. -/
  | group (branches : List (List Expr)) (span : Span)
  /-- Items in brackets; `negated` when a caret stands before them. -/
  | set (negated : Bool) (items : List SetItem) (span : Span)
  | quantified (atom : Expr) (bounds : Bounds) (span : Span)
  deriving Repr

/-- The elements between two bars, in order. -/
abbrev Branch := List Expr

namespace Expr

def span : Expr → Span
  | token _ span | group _ span | set _ _ span | quantified _ _ span => span

end Expr

structure Pattern where
  anchoredStart : Bool
  anchoredEnd : Bool
  branches : List Branch
  span : Span
  deriving Repr

end PatternSampler
