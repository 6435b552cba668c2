import PatternSampler.Text.Decimal

/-! # Paths to settings

A path is an identifier, followed by identifiers after points and by numbers in brackets, as in
`output.count` or `list[2].name`. Identifiers are made of ASCII letters and digits, underscores, dashes
and spaces. A number may have a minus sign, but no plus sign, and spaces and tabs around it.
-/

namespace PatternSampler

inductive PathStep where
  | key (name : String)
  /-- To the element of a list. Negative places count from the end. -/
  | index (place : Int)
  deriving Repr, DecidableEq

namespace PathStep

def isIdentifierChar (c : Char) : Bool :=
  c.isAlphanum || c = '_' || c = '-' || c = ' '

def isBlank (c : Char) : Bool := c = ' ' || c = '\t'

/-- Read a number with the blanks around it, up to the closing bracket. -/
def place? (cs : List Char) : Option (Int × List Char) :=
  let cs := cs.dropWhile isBlank
  let (number, rest) := cs.span fun c => c = '-' || Text.isDigit c
  match Text.signed64? (String.ofList number), rest.dropWhile isBlank with
  | some n, ']' :: rest => some (n, rest)
  | _, _ => none

/-- Read the steps after the first one. -/
def more? (fuel : Nat) (cs : List Char) : Option (List PathStep) :=
  match fuel, cs with
  | _, [] => some []
  | 0, _ => none
  | fuel + 1, '.' :: cs =>
    let (name, rest) := cs.span isIdentifierChar
    if name.isEmpty then none else (.key (String.ofList name) :: ·) <$> more? fuel rest
  | fuel + 1, '[' :: cs => do
    let (n, rest) ← place? cs
    (.index n :: ·) <$> more? fuel rest
  | _, _ => none

def ofText? (s : String) : Option (List PathStep) :=
  let (name, rest) := s.toList.span isIdentifierChar
  if name.isEmpty then none else (.key (String.ofList name) :: ·) <$> more? rest.length rest

end PathStep

end PatternSampler
