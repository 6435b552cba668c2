import PatternSampler.Tree

/-! # Building a tree node by node

A node is pushed under a parent that is already there, so every parent comes before its children. A
push that is refused changes nothing. A tree is finished once no node lacks children it needs.
-/

namespace PatternSampler

/-- A tree that nodes can still be added to. -/
structure Builder where
  nodes : Array Node
  roots : Array NodeId
  deriving Repr, DecidableEq

namespace Builder

def empty : Builder := ⟨#[], #[]⟩

def nextId (b : Builder) : NodeId := b.nodes.size

def root (b : Builder) (kind : NodeKind) : NodeId × Builder :=
  (b.nextId, ⟨b.nodes.push ⟨kind, none, #[]⟩, b.roots.push b.nextId⟩)

def pushUnder (b : Builder) (parent : NodeId) (kind : NodeKind) :
    Except ValidationError (NodeId × Builder) :=
  match b.nodes[parent]?.map (·.kind) with
  | none => .error (.unknownNode parent)
  | some parentKind =>
    if parentKind.isLeaf then .error (.leafParent parentKind.name)
    else
      let id := b.nextId
      let nodes := b.nodes.modify parent fun n => { n with children := n.children.push id }
      .ok (id, { b with nodes := nodes.push ⟨kind, some parent, #[]⟩ })

/-- Add a node under `parent`, or a top-level node when there is no parent. -/
def push (b : Builder) (kind : NodeKind) :
    (parent : Option NodeId) → Except ValidationError (NodeId × Builder)
  | none => .ok (b.root kind)
  | some parent => b.pushUnder parent kind

/-- How many children a node has; an id without a node has none. -/
def childCount (b : Builder) (id : NodeId) : Nat :=
  (b.nodes[id]?.map (·.children.size)).getD 0

def finish (b : Builder) : Except ValidationError Tree :=
  match b.nodes.find? (fun n => n.kind.needsChildren && n.children.isEmpty) with
  | some n => .error (.emptyNode n.kind.name)
  | none => .ok ⟨b.nodes, b.roots⟩

end Builder

end PatternSampler
