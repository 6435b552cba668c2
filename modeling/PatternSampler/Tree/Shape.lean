import PatternSampler.Tree.Builder

/-! # Trees by shape

A shape describes a piece of a tree by what it holds. A list of shapes is put into the frame that
every pattern has: an opening node with the pieces below it, then a closing node.
-/

namespace PatternSampler

inductive Shape where
  | token (t : Token)
  | characterClass (first last : Char)
  | alternative (branches : List Shape)
  | group (children : List Shape)
  | choice (children : List Shape)
  | repetition (min : UInt32) (max : Option UInt32) (inner : Shape)
  deriving Repr

namespace Shape

mutual

/-- Add the piece as the last child of `parent`. The bounds of classes and repetitions are checked
    before anything is added for them. -/
def addTo (parent : NodeId) : Shape → Builder → Except ValidationError Builder
  | .token t, b => (·.2) <$> b.pushUnder parent (.token t)
  | .characterClass first last, b => do
    let cls ← CharacterClass.ofChars first last
    (·.2) <$> b.pushUnder parent (.characterClass cls)
  | .alternative branches, b => do
    let (id, b) ← b.pushUnder parent .alternative
    addAllTo id branches b
  | .group children, b => do
    let (id, b) ← b.pushUnder parent .group
    addAllTo id children b
  | .choice children, b => do
    let (id, b) ← b.pushUnder parent .choice
    addAllTo id children b
  | .repetition min max inner, b => do
    let r ← Repetition.ofBounds min max
    let (id, b) ← b.pushUnder parent (.repetition r)
    inner.addTo id b

def addAllTo (parent : NodeId) : List Shape → Builder → Except ValidationError Builder
  | [], b => .ok b
  | s :: ss, b => do addAllTo parent ss (← s.addTo parent b)

end

/-- The tree of a body in its frame. -/
def build (body : List Shape) : Except ValidationError Tree := do
  let (opening, b) := Builder.empty.root .opening
  let b ← addAllTo opening body b
  (b.root .closing).2.finish

/-- The body of `a(b|c)d{2,3}`: a literal, an alternation in parentheses and a repetition. -/
def endToEnd : List Shape :=
  [.token (.char 'a'),
   .group [.alternative [.token (.char 'b'), .token (.char 'c')]],
   .repetition 2 (some 3) (.token (.char 'd'))]

end Shape

end PatternSampler
