import Mathlib
import PatternSampler.Proofs.Tree.Arena

/-! # Pieces of trees

A sprout is a piece of a tree whose nodes have no ids yet. Grafted onto a node, its nodes are added in
the order in which they are met, a parent before its children, so their ids count up from the next one.
Whoever pushes nodes in this order builds the tree of some sprouts, and it is enough to know which.
-/

namespace PatternSampler

/-- A piece of a tree whose nodes have no ids yet. -/
inductive Sprout where
  | node (kind : NodeKind) (children : List Sprout)
  deriving Repr

namespace Sprout

mutual

def size : Sprout → Nat
  | .node _ children => sizeAll children + 1

def sizeAll : List Sprout → Nat
  | [] => 0
  | s :: ss => s.size + sizeAll ss

end

mutual

/-- The piece with ids that count up from `id`. -/
def subtree (id : NodeId) : Sprout → Subtree
  | .node kind children => .node id kind (subtreeAll (id + 1) children)

def subtreeAll (id : NodeId) : List Sprout → List Subtree
  | [] => []
  | s :: ss => s.subtree id :: subtreeAll (id + s.size) ss

end

/-- The ids of the top nodes of neighbours. -/
def ids (id : NodeId) (ss : List Sprout) : List NodeId := (subtreeAll id ss).map Subtree.id

mutual

/-- The nodes of the piece in the order of their ids. -/
def nodes (id : NodeId) (parent : Option NodeId) : Sprout → List Node
  | .node kind children =>
    ⟨kind, parent, (ids (id + 1) children).toArray⟩ :: nodesAll (id + 1) (some id) children

def nodesAll (id : NodeId) (parent : Option NodeId) : List Sprout → List Node
  | [] => []
  | s :: ss => s.nodes id parent ++ nodesAll (id + s.size) parent ss

end

mutual

theorem length_nodes (s : Sprout) (id : NodeId) (parent : Option NodeId) :
    (s.nodes id parent).length = s.size := by
  cases s with
  | node kind children => rw [nodes, List.length_cons, length_nodesAll, size]

theorem length_nodesAll (ss : List Sprout) (id : NodeId) (parent : Option NodeId) :
    (nodesAll id parent ss).length = sizeAll ss := by
  cases ss with
  | nil => rfl
  | cons s ss => rw [nodesAll, List.length_append, length_nodes, length_nodesAll, sizeAll]

end

variable {ss ss' : List Sprout} {id : Nat} {parent : Option NodeId}

theorem subtreeAll_append :
    subtreeAll id (ss ++ ss') = subtreeAll id ss ++ subtreeAll (id + sizeAll ss) ss' := by
  induction ss generalizing id with
  | nil => rfl
  | cons s ss ih => rw [List.cons_append, subtreeAll, subtreeAll, ih, sizeAll, Nat.add_assoc]; rfl

theorem ids_append : ids id (ss ++ ss') = ids id ss ++ ids (id + sizeAll ss) ss' := by
  rw [ids, subtreeAll_append, List.map_append]
  rfl

theorem length_ids : (ids id ss).length = ss.length := by
  induction ss generalizing id with
  | nil => rfl
  | cons s ss ih => simpa [ids, subtreeAll] using @ih (id + s.size)

theorem nodesAll_append :
    nodesAll id parent (ss ++ ss') = nodesAll id parent ss ++ nodesAll (id + sizeAll ss) parent ss' := by
  induction ss generalizing id with
  | nil => rfl
  | cons s ss ih =>
      rw [List.cons_append, nodesAll, nodesAll, ih, sizeAll, List.append_assoc, Nat.add_assoc]

/-! ## Well-formed pieces -/

mutual

/-- Nodes that cannot have children have none, and nodes that need some have some. -/
def WellFormed : Sprout → Prop
  | .node kind children =>
    (kind.isLeaf → children = []) ∧ (kind.needsChildren → children ≠ []) ∧ AllWellFormed children

def AllWellFormed : List Sprout → Prop
  | [] => True
  | s :: ss => s.WellFormed ∧ AllWellFormed ss

end

theorem ids_ne_nil (nonempty : ss ≠ []) : ids id ss ≠ [] := by
  cases ss with
  | nil => exact absurd rfl nonempty
  | cons => simp [ids, subtreeAll]

mutual

theorem WellFormed.children_ne {s : Sprout} (wf : s.WellFormed) {id : NodeId} {parent : Option NodeId}
    {n : Node} (member : n ∈ s.nodes id parent) (needs : n.kind.needsChildren) : n.children ≠ #[] := by
  cases s with
  | node kind children =>
      rcases List.mem_cons.mp member with rfl | below
      · simpa using ids_ne_nil (wf.2.1 needs)
      · exact AllWellFormed.children_ne wf.2.2 below needs

theorem AllWellFormed.children_ne {ss : List Sprout} (wf : AllWellFormed ss) {id : NodeId}
    {parent : Option NodeId} {n : Node} (member : n ∈ nodesAll id parent ss)
    (needs : n.kind.needsChildren) : n.children ≠ #[] := by
  cases ss with
  | nil => simp [nodesAll] at member
  | cons s ss =>
      rcases List.mem_append.mp member with first | others
      · exact WellFormed.children_ne wf.1 first needs
      · exact AllWellFormed.children_ne wf.2 others needs

end

/-! ## Where the nodes are -/

mutual

/-- A piece `SitsIn` a tree that holds its nodes in a row. -/
theorem sitsIn {t : Tree} (s : Sprout) (before after : List Node) (parent : Option NodeId)
    (found : t.nodes.toList = before ++ s.nodes before.length parent ++ after) :
    (s.subtree before.length).SitsIn t parent := by
  cases s with
  | node kind children =>
      refine ⟨?_, ?_⟩
      · rw [Tree.get?, ← Array.getElem?_toList, found]
        simp [nodes, ids]
      · have below := allSitIn (t := t) children (before ++ [_]) after (some before.length)
          (by simpa [nodes] using found)
        simpa using below

theorem allSitIn {t : Tree} (ss : List Sprout) (before after : List Node) (parent : Option NodeId)
    (found : t.nodes.toList = before ++ nodesAll before.length parent ss ++ after) :
    Subtree.AllSitIn t parent (subtreeAll before.length ss) := by
  cases ss with
  | nil => trivial
  | cons s ss =>
      refine ⟨sitsIn s before (nodesAll (before.length + s.size) parent ss ++ after) parent
        (by simpa [nodesAll] using found), ?_⟩
      have others := allSitIn (t := t) ss (before ++ s.nodes before.length parent) after parent
        (by simpa [nodesAll, length_nodes] using found)
      simpa [length_nodes] using others

end

end Sprout

/-! ## Grafting -/

/-- The node with more children behind its own. -/
def Node.adopt (n : Node) (ids : List NodeId) : Node := { n with children := n.children ++ ids }

theorem Node.adopt_adopt (n : Node) (ids ids' : List NodeId) :
    (n.adopt ids).adopt ids' = n.adopt (ids ++ ids') := by
  simp [adopt, ← Array.toList_inj]

namespace Builder

/-- The builder with some pieces as the last children of a node. -/
def graft (b : Builder) (parent : NodeId) (ss : List Sprout) : Builder :=
  ⟨b.nodes.modify parent (·.adopt (Sprout.ids b.nextId ss)) ++
      Sprout.nodesAll b.nextId (some parent) ss, b.roots⟩

def Bears (b : Builder) (parent : NodeId) : Prop :=
  ∃ n, b.nodes[parent]? = some n ∧ n.kind.isLeaf = false

variable {b : Builder} {parent : Nat} {kind : NodeKind} {ss ss' : List Sprout}

theorem eq_of_nodes {b b' : Builder} (nodes : b.nodes.toList = b'.nodes.toList)
    (roots : b.roots = b'.roots) : b = b' := by
  cases b
  cases b'
  simpa [← Array.toList_inj] using And.intro nodes roots

theorem Bears.lt (bears : b.Bears parent) : parent < b.nodes.size := by
  obtain ⟨n, found, -⟩ := bears
  exact Linked.lt_size found

theorem nodes_graft : (b.graft parent ss).nodes.toList =
    b.nodes.toList.modify parent (·.adopt (Sprout.ids b.nextId ss)) ++
      Sprout.nodesAll b.nextId (some parent) ss := by
  simp [graft]

theorem nextId_graft : (b.graft parent ss).nextId = b.nextId + Sprout.sizeAll ss := by
  rw [nextId, ← Array.length_toList, nodes_graft]
  simp [nextId, Sprout.length_nodesAll]

@[simp] theorem graft_nil : b.graft parent [] = b := by
  refine eq_of_nodes ?_ rfl
  have same : (fun n : Node => n.adopt []) = id := by
    funext n
    simp [Node.adopt]
  rw [nodes_graft, Sprout.ids, Sprout.subtreeAll, List.map_nil, same, List.modify_id]
  exact List.append_nil _

theorem modify_append {l l' : List Node} {f : Node → Node} {i : Nat} (lt : i < l.length) :
    (l ++ l').modify i f = l.modify i f ++ l' := by
  induction l generalizing i with
  | nil => simp at lt
  | cons n l ih =>
      cases i with
      | zero => rfl
      | succ i => simpa using ih (Nat.lt_of_succ_lt_succ lt)

theorem modify_concat {l : List Node} {n : Node} {f : Node → Node} {i : Nat} (last : i = l.length) :
    (l ++ [n]).modify i f = l ++ [f n] := by
  induction l generalizing i with
  | nil =>
      subst last
      rfl
  | cons _ l ih =>
      subst last
      simpa using ih rfl

theorem graft_graft (lt : parent < b.nodes.size) :
    (b.graft parent ss).graft parent ss' = b.graft parent (ss ++ ss') := by
  refine eq_of_nodes ?_ rfl
  have adopted (ids ids' : List NodeId) :
      (·.adopt ids') ∘ (·.adopt ids) = fun n : Node => n.adopt (ids ++ ids') :=
    funext fun n => n.adopt_adopt ids ids'
  rw [nodes_graft, nodes_graft, nextId_graft, modify_append (by simpa using lt),
    List.modify_modify_eq, adopted, nodes_graft, Sprout.ids_append, Sprout.nodesAll_append,
    List.append_assoc]

theorem nodes_graft_node : (b.graft parent [.node kind []]).nodes.toList =
    b.nodes.toList.modify parent (·.adopt [b.nextId]) ++ [⟨kind, some parent, #[]⟩] := by
  rw [nodes_graft]
  rfl

/-- `pushUnder` is `graft` of a single node. -/
theorem pushUnder_eq_graft (bears : b.Bears parent) (kind : NodeKind) :
    b.pushUnder parent kind = .ok (b.nextId, b.graft parent [.node kind []]) := by
  obtain ⟨n, found, inner⟩ := bears
  refine pushUnder_eq_ok.mpr ⟨n, found, inner, rfl, eq_of_nodes ?_ rfl⟩
  simp [nodes_graft_node, withChild, Node.adopt, nextId]

theorem graft_graft_node :
    (b.graft parent [.node kind []]).graft b.nextId ss = b.graft parent [.node kind ss] := by
  refine eq_of_nodes ?_ rfl
  have next : (b.graft parent [.node kind []]).nextId = b.nextId + 1 := nextId_graft
  rw [nodes_graft, next, nodes_graft_node, modify_concat (by simp [nextId]), nodes_graft]
  simp [Node.adopt, Sprout.nodesAll, Sprout.nodes, Sprout.ids, Sprout.subtreeAll, Sprout.subtree,
    Subtree.id]

theorem Bears.graft (bears : b.Bears parent) (other : NodeId) (ss : List Sprout) :
    (b.graft other ss).Bears parent := by
  obtain ⟨n, found, inner⟩ := bears
  rw [← Array.getElem?_toList] at found
  have lt : parent < (b.nodes.toList.modify other (·.adopt (Sprout.ids b.nextId ss))).length := by
    simpa using (List.getElem?_eq_some_iff.mp found).1
  rw [Bears, ← Array.getElem?_toList, nodes_graft, List.getElem?_append_left lt, List.getElem?_modify,
    found]
  refine ⟨_, rfl, ?_⟩
  split
  · exact inner
  · exact inner

theorem bears_graft_node (inner : kind.isLeaf = false) :
    (b.graft parent [.node kind ss]).Bears b.nextId := by
  rw [Bears, ← Array.getElem?_toList, nodes_graft, List.getElem?_append_right (by simp [nextId])]
  simp [Sprout.nodesAll, Sprout.nodes, nextId, inner]

theorem childCount_graft_node : (b.graft parent [.node kind ss]).childCount b.nextId = ss.length := by
  rw [childCount, ← Array.getElem?_toList, nodes_graft, List.getElem?_append_right (by simp [nextId])]
  simp [Sprout.nodesAll, Sprout.nodes, nextId, Sprout.length_ids]

mutual

/-- `graft` of a `WellFormed` piece is reached by calls. -/
theorem reaches_graft {s : Sprout} (wf : s.WellFormed) {b : Builder} {parent : NodeId}
    (bears : b.Bears parent) : b.Reaches (b.graft parent [s]) := by
  cases s with
  | node kind children =>
      have pushed : b.Reaches (b.graft parent [.node kind []]) :=
        reaches_of_pushUnder (pushUnder_eq_graft bears kind)
      cases leaf : kind.isLeaf with
      | true =>
          rw [wf.1 leaf]
          exact pushed
      | false =>
          have inner : (b.graft parent [.node kind []]).Bears b.nextId := bears_graft_node leaf
          rw [← graft_graft_node]
          exact pushed.trans (reaches_graftAll wf.2.2 inner)

theorem reaches_graftAll {ss : List Sprout} (wf : Sprout.AllWellFormed ss) {b : Builder}
    {parent : NodeId} (bears : b.Bears parent) : b.Reaches (b.graft parent ss) := by
  cases ss with
  | nil =>
      rw [graft_nil]
      exact .refl b
  | cons s ss =>
      have first := reaches_graft wf.1 bears
      have others := reaches_graftAll wf.2 (bears.graft parent [s])
      rw [graft_graft bears.lt] at others
      exact first.trans others

end

/-! ## The frame of a pattern -/

/-- An opening node with some pieces below it, and a closing node. -/
def framed (ss : List Sprout) : Builder := ((((empty.root .opening).2.graft 0 ss)).root .closing).2

theorem nodes_framed : (framed ss).nodes.toList =
    [⟨.opening, none, (Sprout.ids 1 ss).toArray⟩] ++ Sprout.nodesAll 1 (some 0) ss ++
      [⟨.closing, none, #[]⟩] := by
  simp [framed, root, empty, nodes_graft, nextId, Node.adopt]

theorem roots_framed : (framed ss).roots = #[0, 1 + Sprout.sizeAll ss] := by
  rw [framed, root, nextId_graft]
  rfl

/-- `finish` succeeds on the frame of well-formed pieces. -/
theorem finish_framed (wf : Sprout.AllWellFormed ss) :
    (framed ss).finish = .ok ⟨(framed ss).nodes, (framed ss).roots⟩ := by
  have none_lacks : (framed ss).nodes.find? (fun n => n.kind.needsChildren && n.children.isEmpty) = none := by
    rw [Array.find?_eq_none]
    intro n member
    rw [Array.mem_def, nodes_framed, List.mem_append, List.mem_append] at member
    rcases member with (opening | below) | closing
    · cases List.mem_singleton.mp opening
      simp [NodeKind.needsChildren]
    · simpa using fun needs => wf.children_ne below needs
    · cases List.mem_singleton.mp closing
      simp [NodeKind.needsChildren]
  rw [finish, none_lacks]

end Builder

namespace Tree

def framed (ss : List Sprout) : Tree := ⟨(Builder.framed ss).nodes, (Builder.framed ss).roots⟩

variable {ss : List Sprout}

theorem built_framed (wf : Sprout.AllWellFormed ss) : (framed ss).Built := by
  have bears : (Builder.empty.root .opening).2.Bears 0 := ⟨_, rfl, rfl⟩
  have below := (Builder.reaches_root .empty .opening).trans (Builder.reaches_graftAll wf bears)
  exact built_of_reaches (below.trans (Builder.reaches_root _ .closing)) (Builder.finish_framed wf)

theorem get?_framed_opening :
    (framed ss).get? 0 = some ⟨.opening, none, (Sprout.ids 1 ss).toArray⟩ := by
  rw [get?, framed, ← Array.getElem?_toList, Builder.nodes_framed]
  rfl

theorem get?_framed_closing : (framed ss).get? (1 + Sprout.sizeAll ss) = some ⟨.closing, none, #[]⟩ := by
  rw [get?, framed, ← Array.getElem?_toList, Builder.nodes_framed,
    List.getElem?_append_right (by simp [Sprout.length_nodesAll, Nat.add_comm])]
  simp [Sprout.length_nodesAll, Nat.add_comm]

theorem allSitIn_framed : Subtree.AllSitIn (framed ss) (some 0) (Sprout.subtreeAll 1 ss) :=
  Sprout.allSitIn ss [_] _ (some 0) Builder.nodes_framed

end Tree

/-- The tree of a pattern of one token. -/
def treeOfToken (t : Token) : Tree :=
  ⟨#[⟨.opening, none, #[1]⟩, ⟨.token t, some 0, #[]⟩, ⟨.closing, none, #[]⟩], #[0, 2]⟩

end PatternSampler
