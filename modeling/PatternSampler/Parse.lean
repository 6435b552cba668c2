import PatternSampler.Expr.Reader
import PatternSampler.Token.Lexer
import PatternSampler.Tree.Builder

/-! # From a pattern to its tree

The body of a pattern goes under an opening node, and an empty closing node follows it. A single
branch puts its elements straight into the node above it. Several branches go under an alternative,
where a branch of one element is that element and a longer one is a group. Parentheses are a group,
brackets a choice, and a quantifier is a repetition with its atom below it.

Elements are visited in the order in which they stand, and the first problem that is met is the
answer: parentheses are found empty after their content, the bounds of a quantifier are checked before
its atom.
-/

namespace PatternSampler

/-- A construct that can be read but not be drawn from. -/
inductive Construct where
  | negatedSet
  deriving Repr, DecidableEq

def Construct.name : Construct → String
  | negatedSet => "negated character set"

inductive ParseError where
  | lex (e : LexError)
  /-- The pattern does not have the shape of one. -/
  | grammar (problem : GrammarProblem) (span : Span)
  | invalid (source : ValidationError) (span : Span)
  | unsupported (construct : Construct) (span : Span)
  deriving Repr, DecidableEq

namespace ParseError

/-- The bytes of the pattern that are at fault. -/
def span : ParseError → Span
  | lex e => e.span
  | grammar _ span | invalid _ span | unsupported _ span => span

def message : ParseError → String
  | lex e => e.message
  | grammar problem span => problem.message ++ " at " ++ span.text
  | invalid source span => source.message ++ " at " ++ span.text
  | unsupported construct span => construct.name ++ " is not supported (at " ++ span.text ++ ")"

end ParseError

def ValidationError.at (span : Span) {α : Type} : Except ValidationError α → Except ParseError α
  | .ok a => .ok a
  | .error source => .error (.invalid source span)

def Bounds.repetition (bounds : Bounds) : Except ValidationError Repetition :=
  Repetition.ofBounds (UInt32.ofNat bounds.min) (bounds.max.map UInt32.ofNat)

/-- Add an item of a set that stands in `setSpan` as the last child of `parent`. -/
def SetItem.addTo (parent : NodeId) (setSpan : Span) (b : Builder) :
    SetItem → Except ParseError Builder
  | .single t => (·.2) <$> ValidationError.at setSpan (b.pushUnder parent (.token t))
  | .range first last span => do
    let cls ← ValidationError.at span (CharacterClass.ofTokens first last)
    (·.2) <$> ValidationError.at span (b.pushUnder parent (.characterClass cls))

namespace Expr

mutual

def addTo (parent : NodeId) : Expr → Builder → Except ParseError Builder
  | .token t span, b => (·.2) <$> ValidationError.at span (b.pushUnder parent (.token t))
  | .group [branch] span, b => do
    let (id, b) ← ValidationError.at span (b.pushUnder parent .group)
    let b ← addAllTo id branch b
    if b.childCount id = 0 then .error (.grammar .emptyGroup span) else .ok b
  | .group branches span, b => do
    let (id, b) ← ValidationError.at span (b.pushUnder parent .group)
    let (alternative, b) ← ValidationError.at span (b.pushUnder id .alternative)
    addBranchesTo alternative span branches b
  | .set negated items span, b =>
    if negated then .error (.unsupported .negatedSet span)
    else do
      let (id, b) ← ValidationError.at span (b.pushUnder parent .choice)
      items.foldlM (fun b item => item.addTo id span b) b
  | .quantified atom bounds span, b => do
    let r ← ValidationError.at span bounds.repetition
    let (id, b) ← ValidationError.at span (b.pushUnder parent (.repetition r))
    atom.addTo id b

/-- Add the elements of a branch as children of `parent`, in order. -/
def addAllTo (parent : NodeId) : List Expr → Builder → Except ParseError Builder
  | [], b => .ok b
  | e :: es, b => do addAllTo parent es (← e.addTo parent b)

/-- Add each of several branches that stand in `span` as one child of the alternative `parent`. -/
def addBranchesTo (parent : NodeId) (span : Span) :
    List (List Expr) → Builder → Except ParseError Builder
  | [], b => .ok b
  | [] :: _, _ => .error (.grammar .emptyBranch span)
  | [e] :: branches, b => do addBranchesTo parent span branches (← e.addTo parent b)
  | branch :: branches, b => do
    let (id, b) ← ValidationError.at span (b.pushUnder parent .group)
    addBranchesTo parent span branches (← addAllTo id branch b)

end

/-- Add an alternation that stands in `span` under `parent`: the elements of a single branch as they
    are, several branches through an alternative. -/
def addAlternationTo (parent : NodeId) (span : Span) :
    List Branch → Builder → Except ParseError Builder
  | [branch], b => addAllTo parent branch b
  | branches, b => do
    let (alternative, b) ← ValidationError.at span (b.pushUnder parent .alternative)
    addBranchesTo alternative span branches b

end Expr

def Pattern.tree (p : Pattern) : Except ParseError Tree := do
  let (opening, b) := Builder.empty.root .opening
  let b ← Expr.addAlternationTo opening p.span p.branches b
  ValidationError.at p.span (b.root .closing).2.finish

/-- The tree of a pattern that is given as tokens, from a text of `length` bytes. -/
def parseLexemes (ts : List Lexeme) (length : Nat) : Except ParseError Tree :=
  match Pattern.ofLexemes (.emptyAt length) ts with
  | .error e => .error (.grammar e.problem e.span)
  | .ok p => p.tree

def parse (pattern : String) : Except ParseError Tree :=
  match tokenize pattern with
  | .error e => .error (.lex e)
  | .ok ts => parseLexemes ts pattern.utf8ByteSize

end PatternSampler
