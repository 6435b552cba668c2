import PatternSampler.Parse
import PatternSampler.Random.Pick
import PatternSampler.Random.Seeded

/-! # Drawing text from a tree

A run visits nodes in order and picks where there is a choice: one child of an alternative or a
choice, a count for a repetition, a character for a class or a wildcard. Every visit may add text, and
the texts of all visits in order are the text of the run.

An escape adds nothing. A period is the wildcard, unless it stands directly in a choice, that is in a
bracket set, where it is a period.
-/

namespace PatternSampler

inductive Picked where
  | child (index : Nat)
  | count (copies : Nat)
  | char (c : Char)
  deriving Repr, DecidableEq

structure Visit where
  node : NodeId
  picked : Option Picked
  /-- What the visit adds by itself, its children's visits apart. -/
  text : String
  deriving Repr, DecidableEq

/-- The characters that a wildcard can become lie between these two. -/
def wildcardBounds : Char × Char := ('Z', 'a')

/-- How far above its minimum the count of a repetition without a maximum can go, unless something
    else is asked for. -/
def defaultExtra : UInt32 := 5

/-- The largest count of a repetition. Without a maximum it is `extra` above the minimum, but no more
    than a word can hold. -/
def Repetition.largest (r : Repetition) (extra : UInt32) : Nat :=
  match r.max with
  | some max => max.toNat
  | none => Nat.min (r.min.toNat + extra.toNat) (UInt32.size - 1)

namespace Subtree

def iterate {α : Type} (step : α → Except Fault α) : Nat → α → Except Fault α
  | 0, a => .ok a
  | n + 1, a =>
    match step a with
    | .error e => .error e
    | .ok a => iterate step n a

/-- Visit a token. `inChoice` says that its parent is a choice. -/
def runToken {σ β : Type} [DrawSource σ] (note : β → Visit → β) (inChoice : Bool) (id : NodeId)
    (t : Token) (b : β) (s : σ) : Except Fault (β × σ) :=
  if t.isEscape then .ok (note b ⟨id, none, ""⟩, s)
  else if t.isWildcard && !inChoice then
    match Pick.char wildcardBounds.1 wildcardBounds.2 s with
    | .error e => .error e
    | .ok (c, s) => .ok (note b ⟨id, some (.char c), c.toString⟩, s)
  else .ok (note b ⟨id, none, t.text⟩, s)

/-- Visit a node that takes one of its `count` children, and answer which. Without children nothing is
    drawn. -/
def pickChild {σ β : Type} [DrawSource σ] (note : β → Visit → β) (id : NodeId) (count : Nat)
    (b : β) (s : σ) : Except Fault (Nat × β × σ) :=
  if count = 0 then .ok (0, note b ⟨id, none, ""⟩, s)
  else
    match Pick.place count s with
    | .error e => .error e
    | .ok (index, s) => .ok (index, note b ⟨id, some (.child index), ""⟩, s)

mutual

/-- Visit a node and what it takes of its children. `note` is told of every visit, in order. -/
def run {σ β : Type} [DrawSource σ] (note : β → Visit → β) (extra : UInt32) (inChoice : Bool) :
    Subtree → β → σ → Except Fault (β × σ)
  | .node id kind children, b, s =>
    match kind with
    | .opening | .closing | .group =>
      runAll note extra false children (note b ⟨id, none, ""⟩) s
    | .alternative =>
      match pickChild note id children.length b s with
      | .error e => .error e
      | .ok (index, b, s) => runNth note extra false children index b s
    | .choice =>
      match pickChild note id children.length b s with
      | .error e => .error e
      | .ok (index, b, s) => runNth note extra true children index b s
    | .characterClass cls =>
      match Pick.char cls.lo cls.hi s with
      | .error e => .error e
      | .ok (c, s) => .ok (note b ⟨id, some (.char c), c.toString⟩, s)
    | .repetition r =>
      match Pick.number r.min.toNat (r.largest extra) s with
      | .error e => .error e
      | .ok (n, s) =>
        iterate (fun (b, s) => runAll note extra false children b s) n
          (note b ⟨id, some (.count n), ""⟩, s)
    | .token t => runToken note inChoice id t b s

def runAll {σ β : Type} [DrawSource σ] (note : β → Visit → β) (extra : UInt32) (inChoice : Bool) :
    List Subtree → β → σ → Except Fault (β × σ)
  | [], b, s => .ok (b, s)
  | t :: ts, b, s =>
    match run note extra inChoice t b s with
    | .error e => .error e
    | .ok (b, s) => runAll note extra inChoice ts b s

def runNth {σ β : Type} [DrawSource σ] (note : β → Visit → β) (extra : UInt32) (inChoice : Bool) :
    List Subtree → Nat → β → σ → Except Fault (β × σ)
  | [], _, b, s => .ok (b, s)
  | t :: _, 0, b, s => run note extra inChoice t b s
  | _ :: ts, n + 1, b, s => runNth note extra inChoice ts n b s

end

/-- One text drawn from neighbouring top-level nodes. -/
def draw {σ : Type} [DrawSource σ] (extra : UInt32) (ts : List Subtree) (s : σ) :
    Except Fault (String × σ) :=
  runAll (fun text visit => text ++ visit.text) extra false ts "" s

/-- Texts drawn one after the other, put before those that are `done` already, latest first. -/
def drawMany {σ : Type} [DrawSource σ] (extra : UInt32) (ts : List Subtree) :
    (count : Nat) → (done : List String) → σ → Except Fault (List String × σ)
  | 0, done, s => .ok (done, s)
  | n + 1, done, s =>
    match draw extra ts s with
    | .error e => .error e
    | .ok (text, s) => drawMany extra ts n (text :: done) s

end Subtree

/-- One text drawn from a tree by a seed alone, as far above its minimum as counts usually go. -/
def Tree.generate (t : Tree) (seed : UInt64) : Except Fault String :=
  match t.subtrees with
  | .error e => .error e
  | .ok ts => (·.1) <$> Subtree.draw defaultExtra ts (Seeded.ofSeed seed)

/-- A tree to draw texts from. `extra` is how far above its minimum the count of a repetition without
    a maximum can go. -/
structure Generator where
  tree : Tree
  extra : UInt32 := defaultExtra
  deriving Repr, DecidableEq

namespace Generator

def ofPattern (pattern : String) : Except ParseError Generator :=
  (⟨·, defaultExtra⟩) <$> parse pattern

def withExtra (g : Generator) (extra : UInt32) : Generator := { g with extra }

/-- Draw one text from a source, and answer the source after it. -/
def drawFrom {σ : Type} [DrawSource σ] (g : Generator) (s : σ) : Except Fault (String × σ) :=
  match g.tree.subtrees with
  | .error e => .error e
  | .ok ts => Subtree.draw g.extra ts s

def generate (g : Generator) (seed : UInt64) : Except Fault String :=
  (·.1) <$> g.drawFrom (Seeded.ofSeed seed)

/-- Texts drawn one after the other from one source, and the source after them. -/
def samplesFrom {σ : Type} [DrawSource σ] (g : Generator) (count : Nat) (s : σ) :
    Except Fault (List String × σ) :=
  match g.tree.subtrees with
  | .error e => .error e
  | .ok ts => (fun (done, s) => (done.reverse, s)) <$> Subtree.drawMany g.extra ts count [] s

/-- Texts drawn one after the other from the source of a seed. -/
def samples (g : Generator) (count : Nat) (seed : UInt64) : Except Fault (List String) :=
  (·.1) <$> g.samplesFrom count (Seeded.ofSeed seed)

end Generator

end PatternSampler
