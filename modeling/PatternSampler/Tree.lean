import PatternSampler.Tree.Kind

/-! # Pattern trees

A tree keeps its nodes in one array. A node is known by its place in that array, and names its parent
and its children in this way. `Subtree` is the same tree with children inside their parents.
-/

namespace PatternSampler

/-- The place of a node among the nodes of its tree. -/
abbrev NodeId := Nat

namespace NodeId

def text (id : NodeId) : String := "#" ++ toString id

end NodeId

/-- A node with the ids of its parent and its children. Top-level nodes have no parent. -/
structure Node where
  kind : NodeKind
  parent : Option NodeId
  children : Array NodeId
  deriving Repr, DecidableEq

/-- The nodes of a pattern in the order of their creation, and the ids of the top-level ones. -/
structure Tree where
  nodes : Array Node
  roots : Array NodeId
  deriving Repr, DecidableEq

/-- What a walk over a tree, or a draw from it, can run into. -/
inductive Fault where
  /-- A tree of `size` nodes has none with this id. -/
  | unknownNode (id : NodeId) (size : Nat)
  /-- The nodes are nested deeper than there are nodes. -/
  | tooDeep
  /-- A number was asked for from a range that holds none. -/
  | emptyRange
  /-- A code point came up that is not a character. -/
  | notACharacter (codePoint : Nat)
  /-- The source of randomness has no more draws. -/
  | exhausted
  deriving Repr, DecidableEq

namespace Fault

def message : Fault → String
  | unknownNode id size =>
    "index out of bounds: the len is " ++ toString size ++ " but the index is " ++ toString id
  | tooDeep => "the nodes are nested too deeply"
  | emptyRange => "cannot sample empty range"
  | notACharacter codePoint => "no character has the code point " ++ toString codePoint
  | exhausted => "the source of randomness is exhausted"

end Fault

namespace Tree

def size (t : Tree) : Nat := t.nodes.size

def get? (t : Tree) (id : NodeId) : Option Node := t.nodes[id]?

/-- The node with an id that is meant to be one of the tree's. -/
def node (t : Tree) (id : NodeId) : Except Fault Node :=
  match t.get? id with
  | some node => .ok node
  | none => .error (.unknownNode id t.size)

def parent (t : Tree) (id : NodeId) : Except Fault (Option Node) := do
  match (← t.node id).parent with
  | none => return none
  | some parent => return some (← t.node parent)

end Tree

/-- A node with everything below it. -/
inductive Subtree where
  | node (id : NodeId) (kind : NodeKind) (children : List Subtree)
  deriving Repr

namespace Tree

/-- The node `id` with everything below it, down to `depth` levels. -/
def subtree (t : Tree) (depth : Nat) (id : NodeId) : Except Fault Subtree :=
  match depth with
  | 0 => .error .tooDeep
  | depth + 1 =>
    match t.node id with
    | .error e => .error e
    | .ok node => .node id node.kind <$> node.children.toList.mapM (t.subtree depth)

/-- The top-level nodes with everything below them. No branch of a tree has more nodes than the
    tree, so their number is depth enough. -/
def subtrees (t : Tree) : Except Fault (List Subtree) := t.roots.toList.mapM (t.subtree t.size)

end Tree

namespace Subtree

mutual

def outline (depth : Nat) : Subtree → String
  | .node _ kind children =>
    String.ofList (List.replicate (2 * depth) ' ') ++ kind.text ++ "\n"
      ++ outlineAll (depth + 1) children

def outlineAll (depth : Nat) : List Subtree → String
  | [] => ""
  | t :: ts => outline depth t ++ outlineAll depth ts

end

end Subtree

namespace Tree

def outline (t : Tree) : Except Fault String := Subtree.outlineAll 0 <$> t.subtrees

end Tree

end PatternSampler
