import PatternSampler.Token

/-! # What the nodes of a pattern tree are

A kind says what a node is and nothing about how text is drawn from it. Character classes and
repetitions carry the proof that their ends are in order, so nothing later has to check it again.
-/

namespace PatternSampler

/-- What a tree must not hold, and what a builder refuses. -/
inductive ValidationError where
  /-- The class from `first` to `last` holds no character. -/
  | emptyRange (first last : Char)
  /-- The boundary of a class is an escape, which is not one character. -/
  | nonLiteralBoundary (token : Token)
  /-- The largest count of a repetition is below its smallest. -/
  | invertedBounds (min max : UInt32)
  /-- A node of a kind that needs children has none. -/
  | emptyNode (kindName : String)
  /-- A child was put under a node of a kind that has none. -/
  | leafParent (kindName : String)
  | unknownNode (id : Nat)
  deriving Repr, DecidableEq

namespace ValidationError

def message : ValidationError → String
  | emptyRange first last =>
    "character class `" ++ first.toString ++ "-" ++ last.toString ++ "` is empty: `"
      ++ last.toString ++ "` sorts before `" ++ first.toString ++ "`"
  | nonLiteralBoundary token =>
    "character class boundary `" ++ token.text ++ "` is not a literal character"
  | invertedBounds min max =>
    "repetition bounds \x7b" ++ toString min.toNat ++ "," ++ toString max.toNat ++ "\x7d are inverted"
  | emptyNode kindName => kindName ++ " node must have at least one child"
  | leafParent kindName => kindName ++ " node cannot have children"
  | unknownNode id => "node #" ++ toString id ++ " does not exist"

end ValidationError

/-- All characters between two boundaries, both included. The boundaries are kept as the tokens that
    they were written with. -/
structure CharacterClass where
  first : Token
  last : Token
  first_literal : first.literal?.isSome
  last_literal : last.literal?.isSome
  ordered : first.literal?.get first_literal ≤ last.literal?.get last_literal
  deriving Repr, DecidableEq

namespace CharacterClass

def lo (c : CharacterClass) : Char := c.first.literal?.get c.first_literal

def hi (c : CharacterClass) : Char := c.last.literal?.get c.last_literal

/-- The class between two tokens. Both have to be literal, which is asked of the first one first, and
    they have to be in order. -/
def ofTokens (first last : Token) : Except ValidationError CharacterClass :=
  if hf : first.literal?.isSome then
    if hl : last.literal?.isSome then
      if ho : first.literal?.get hf ≤ last.literal?.get hl then .ok ⟨first, last, hf, hl, ho⟩
      else .error (.emptyRange (first.literal?.get hf) (last.literal?.get hl))
    else .error (.nonLiteralBoundary last)
  else .error (.nonLiteralBoundary first)

def ofChars (first last : Char) : Except ValidationError CharacterClass :=
  ofTokens (.char first) (.char last)

def contains (cls : CharacterClass) (c : Char) : Bool := cls.lo ≤ c && c ≤ cls.hi

end CharacterClass

/-- How often the children of a node occur. Without a maximum the count has no upper limit. -/
structure Repetition where
  min : UInt32
  max : Option UInt32
  ordered : ∀ m ∈ max, min ≤ m
  deriving Repr, DecidableEq

namespace Repetition

/-- The repetition between two bounds, which have to be in order. -/
def ofBounds (min : UInt32) : (max : Option UInt32) → Except ValidationError Repetition
  | none => .ok ⟨min, none, by simp⟩
  | some max =>
    if h : min ≤ max then .ok ⟨min, some max, by simpa using h⟩
    else .error (.invertedBounds min max)

def exactly (count : UInt32) : Repetition := ⟨count, some count, by simp⟩

def atLeast (min : UInt32) : Repetition := ⟨min, none, by simp⟩

def isUnbounded (r : Repetition) : Bool := r.max.isNone

/-- The bounds in parentheses; a missing maximum leaves its place empty. -/
def text (r : Repetition) : String :=
  "(" ++ toString r.min.toNat ++ "," ++ (r.max.map (toString ·.toNat)).getD "" ++ ")"

end Repetition

inductive NodeKind where
  /-- Start of the pattern; holds the pattern's body. -/
  | opening
  | closing
  /-- Branches of which exactly one is taken. -/
  | alternative
  /-- A block whose children follow one another. -/
  | group
  /-- A block of which exactly one child is taken. -/
  | choice
  | characterClass (cls : CharacterClass)
  | repetition (r : Repetition)
  | token (t : Token)
  deriving Repr, DecidableEq

namespace NodeKind

/-- The name of the kind. Both sorts of block have the same name. -/
def name : NodeKind → String
  | opening => "begin"
  | closing => "end"
  | alternative => "alternative"
  | group | choice => "block"
  | characterClass _ => "character-class"
  | repetition _ => "repetition"
  | token _ => "token"

def isLeaf : NodeKind → Bool
  | token _ | characterClass _ => true
  | _ => false

def needsChildren : NodeKind → Bool
  | alternative | group | choice => true
  | _ => false

/-- The name with what sets the node apart from others of that name. -/
def text : NodeKind → String
  | group => "block(sub_pattern=true)"
  | choice => "block(sub_pattern=false)"
  | characterClass cls => "character-class(" ++ cls.first.text ++ "-" ++ cls.last.text ++ ")"
  | repetition r => "repetition" ++ r.text
  | token t => "token(" ++ t.text ++ ")"
  | kind => kind.name

end NodeKind

end PatternSampler
