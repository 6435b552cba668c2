import PatternSampler.Expr

/-! # Readings of tokens

A reader takes tokens from the front of a list. It answers with what it read and the tokens that are
left, or it refuses. A reader that is refused takes nothing, so that another one can be tried at the
same place.

Of all refusals on the way, also of those that another reading got around, the one furthest on is what
a pattern is refused with. A successful reading therefore carries the furthest refusal that it met; of
two at the same place the later one counts.
-/

namespace PatternSampler

/-- What is wrong with the shape of a pattern. -/
inductive GrammarProblem where
  /-- A token that no pattern could have at this place. -/
  | unexpected (token : Token)
  | unexpectedEnd
  /-- A token where the first digit of a quantifier's bounds has to be. -/
  | notADigit (token : Token)
  /-- The bound written with these digits is above the largest one. -/
  | boundTooLarge (digits : String)
  /-- One of several branches has no elements. -/
  | emptyBranch
  /-- A pair of parentheses with nothing between them. -/
  | emptyGroup
  /-- A reading that would go on forever without taking a token. -/
  | endless
  deriving Repr, DecidableEq

/-- The largest bound that a quantifier in braces may have. -/
def Bounds.limit : Nat := 10000

namespace GrammarProblem

def message : GrammarProblem → String
  | unexpected token => "unexpected `" ++ token.text ++ "`"
  | unexpectedEnd => "unexpected end of pattern"
  | notADigit token => "expected a digit, found `" ++ token.text ++ "`"
  | boundTooLarge digits =>
    "repetition bound `" ++ digits ++ "` exceeds " ++ toString Bounds.limit
  | emptyBranch => "empty alternative branch"
  | emptyGroup => "empty group"
  | endless => "reading goes on without taking a token"

end GrammarProblem

structure Refusal where
  problem : GrammarProblem
  span : Span
  deriving Repr, DecidableEq

/-- A refusal with the number of tokens that were left where it stands. -/
structure Setback where
  left : Nat
  refusal : Refusal
  deriving Repr, DecidableEq

namespace Setback

/-- The one of two refusals that is further on, the first one at the same place. -/
def orFurther (s : Setback) : Option Setback → Setback
  | none => s
  | some t => if t.left < s.left then t else s

/-- The same where the first one may be missing, too. -/
def furthest : Option Setback → Option Setback → Option Setback
  | none, t => t
  | some s, t => some (s.orFurther t)

end Setback

inductive Reading (α : Type) where
  /-- It read something. `alt` is the furthest refusal on the way. -/
  | done (value : α) (rest : List Lexeme) (alt : Option Setback)
  | refused (s : Setback)
  | endless
  deriving Repr

abbrev Reader (α : Type) := List Lexeme → Reading α

/-- The span of what was read from `ts` when `rest` is left: from the start of its first token to the end
    of its last. What was read from no token has the span of the next one. -/
def Span.since (atEnd : Span) (ts rest : List Lexeme) : Span :=
  match ts with
  | [] => atEnd
  | first :: more =>
    let last := ((first :: more).take (ts.length - rest.length)).getLast?.getD first
    first.span.through last.span

namespace Reader

variable {α β : Type} (atEnd : Span)

def one (pick : Token → Option α) (problem : Token → GrammarProblem) : Reader α
  | [] => .refused ⟨0, .unexpectedEnd, atEnd⟩
  | next :: ts =>
    match pick next.token with
    | some a => .done a ts none
    | none => .refused ⟨ts.length + 1, problem next.token, next.span⟩

def satisfying (holds : Token → Bool) : Reader Token :=
  one atEnd (fun t => if holds t then some t else none) .unexpected

def exactly (t : Token) : Reader Token := satisfying atEnd (· = t)

def finished : Reader Unit
  | [] => .done () [] none
  | next :: ts => .refused ⟨ts.length + 1, .unexpected next.token, next.span⟩

def map (f : α → β) (r : Reader α) : Reader β := fun ts =>
  match r ts with
  | .done a rest alt => .done (f a) rest alt
  | .refused s => .refused s
  | .endless => .endless

def spanned (f : α → Span → β) (r : Reader α) : Reader β := fun ts =>
  match r ts with
  | .done a rest alt => .done (f a (.since atEnd ts rest)) rest alt
  | .refused s => .refused s
  | .endless => .endless

/-- Check what was read. A problem stands after all of it. -/
def checked (check : α → Except GrammarProblem β) (r : Reader α) : Reader β := fun ts =>
  match r ts with
  | .done a rest alt =>
    match check a with
    | .ok b => .done b rest alt
    | .error problem => .refused ⟨rest.length, problem, .since atEnd ts rest⟩
  | .refused s => .refused s
  | .endless => .endless

def followedBy (r : Reader α) (next : Reader β) : Reader (α × β) := fun ts =>
  match r ts with
  | .done a rest alt =>
    match next rest with
    | .done b rest alt' => .done (a, b) rest (Setback.furthest alt' alt)
    | .refused s => .refused (s.orFurther alt)
    | .endless => .endless
  | .refused s => .refused s
  | .endless => .endless

def between (opening closing : Token) (r : Reader α) : Reader α :=
  map (·.1.2) (((exactly atEnd opening).followedBy r).followedBy (exactly atEnd closing))

def optional (r : Reader α) : Reader (Option α) := fun ts =>
  match r ts with
  | .done a rest alt => .done (some a) rest alt
  | .refused s => .done none ts (some s)
  | .endless => .endless

/-- Read one thing, or else another. A success forgets the refusals of what was tried before it. -/
def orElse (r other : Reader α) : Reader α := fun ts =>
  match r ts with
  | .refused s =>
    match other ts with
    | .refused s' => .refused (s'.orFurther (some s))
    | reading => reading
  | reading => reading

/-- Read as many things as there are. A thing that takes no token would be read forever. -/
def many (r : Reader α) (ts : List Lexeme) : Reading (List α) :=
  match r ts with
  | .done a rest alt =>
    if rest.length < ts.length then
      match many r rest with
      | .done as rest alt' => .done (a :: as) rest (Setback.furthest alt' alt)
      | .refused s => .refused s
      | .endless => .endless
    else .endless
  | .refused s => .done [] ts (some s)
  | .endless => .endless
termination_by ts.length

/-- Read as many things as there are, and at least one. -/
def manyOne (r : Reader α) : Reader (List α) := map (fun (a, as) => a :: as) (r.followedBy (many r))

/-- Read as many things as there are with something between each two of them. What stands between is
    left when nothing follows it. -/
def separatedBy (separator : Reader β) (r : Reader α) (ts : List Lexeme) : Reading (List α) :=
  match r ts with
  | .refused s => .done [] ts (some s)
  | .endless => .endless
  | .done a rest alt =>
    match separator rest with
    | .refused s => .done [a] rest (Setback.furthest (some s) alt)
    | .endless => .endless
    | .done _ afterSeparator alt' =>
      let alt := Setback.furthest alt' alt
      if afterSeparator.length < ts.length then
        match separatedBy separator r afterSeparator with
        | .done [] _ alt' => .done [a] rest (Setback.furthest alt' alt)
        | .done (b :: bs) rest alt' => .done (a :: b :: bs) rest (Setback.furthest alt' alt)
        | .refused s => .refused s
        | .endless => .endless
      else .endless
termination_by ts.length

/-- A reader that uses itself. To use itself again before it took a token would go on forever. -/
def recursive (body : Reader α → Reader α) (ts : List Lexeme) : Reading α :=
  body (fun rest => if rest.length < ts.length then recursive body rest else .endless) ts
termination_by ts.length

end Reader

end PatternSampler
