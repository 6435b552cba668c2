import Mathlib
import PatternSampler.Proofs.Lists
import PatternSampler.Tree.Builder

/-! # Links between the nodes of a tree

Whatever is asked of a builder, and in whatever order, its nodes stay linked: a parent and its children
name each other, a parent comes before its children, and children stand in the order in which they
were added. A finished tree can therefore be followed from its top-level nodes down, and `subtrees`
finds everything that is there.
-/

namespace PatternSampler

/-- The links between nodes, and between the nodes and the list of the top-level ones. -/
structure Linked (nodes : Array Node) (roots : Array NodeId) : Prop where
  child_parent : ∀ {p c : NodeId} {n : Node}, nodes[p]? = some n → c ∈ n.children →
    ∃ m, nodes[c]? = some m ∧ m.parent = some p
  parent_child : ∀ {p c : NodeId} {m : Node}, nodes[c]? = some m → m.parent = some p →
    ∃ n, nodes[p]? = some n ∧ c ∈ n.children
  parent_lt : ∀ {p c : NodeId} {m : Node}, nodes[c]? = some m → m.parent = some p → p < c
  mem_roots : ∀ {r : NodeId}, r ∈ roots ↔ ∃ m, nodes[r]? = some m ∧ m.parent = none
  children_increase : ∀ {p : NodeId} {n : Node}, nodes[p]? = some n →
    n.children.toList.Pairwise (· < ·)
  roots_increase : roots.toList.Pairwise (· < ·)
  leaf_children : ∀ {p : NodeId} {n : Node}, nodes[p]? = some n → n.kind.isLeaf → n.children = #[]

namespace Builder

/-! ## Calls -/

inductive Call where
  | root (kind : NodeKind)
  | push (kind : NodeKind) (parent : Option NodeId)
  deriving Repr, DecidableEq

/-- The builder after a call. A push that is refused leaves it as it is. -/
def call (b : Builder) : Call → Builder
  | .root kind => (b.root kind).2
  | .push kind parent =>
    match b.push kind parent with
    | .ok (_, b') => b'
    | .error _ => b

def ofCalls (calls : List Call) : Builder := calls.foldl call empty

/-- The nodes with a new one as the last child of `parent`. -/
def withChild (nodes : Array Node) (parent : NodeId) (kind : NodeKind) : Array Node :=
  (nodes.modify parent fun n => { n with children := n.children.push nodes.size }).push
    ⟨kind, some parent, #[]⟩

/-- An old node after a push: it has one more child if it is the parent, and is as it was otherwise. -/
def gaining (nodes : Array Node) (parent i : NodeId) (old : Node) : Node :=
  { old with children := if i = parent then old.children.push nodes.size else old.children }

theorem pushUnder_eq_ok {b b' : Builder} {parent id : NodeId} {kind : NodeKind} :
    b.pushUnder parent kind = .ok (id, b') ↔
      ∃ n, b.nodes[parent]? = some n ∧ n.kind.isLeaf = false ∧ id = b.nextId ∧
        b' = ⟨withChild b.nodes parent kind, b.roots⟩ := by
  cases found : b.nodes[parent]? with
  | none => simp [pushUnder, found]
  | some n =>
      cases leaf : n.kind.isLeaf with
      | true => simp [pushUnder, found, leaf]
      | false =>
          simp only [pushUnder, found, Option.map_some, leaf, Bool.false_eq_true, if_false,
            Except.ok.injEq, Prod.mk.injEq, Option.some.injEq, exists_eq_left', true_and]
          exact and_congr eq_comm eq_comm

/-- Calls lead from one builder to the other. -/
def Reaches (b b' : Builder) : Prop := ∃ calls : List Call, calls.foldl call b = b'

theorem Reaches.refl (b : Builder) : b.Reaches b := ⟨[], rfl⟩

theorem Reaches.trans {b b' b'' : Builder} (first : b.Reaches b') (second : b'.Reaches b'') :
    b.Reaches b'' := by
  obtain ⟨calls, rfl⟩ := first
  obtain ⟨calls', rfl⟩ := second
  exact ⟨calls ++ calls', List.foldl_append⟩

theorem reaches_root (b : Builder) (kind : NodeKind) : b.Reaches (b.root kind).2 := ⟨[.root kind], rfl⟩

theorem reaches_of_pushUnder {b b' : Builder} {parent id : NodeId} {kind : NodeKind}
    (pushed : b.pushUnder parent kind = .ok (id, b')) : b.Reaches b' :=
  ⟨[.push kind (some parent)], by simp only [List.foldl_cons, List.foldl_nil, call, push, pushed]⟩

variable {nodes : Array Node} {parent i : Nat} {kind : NodeKind} {m old : Node}

theorem getElem?_withChild_size : (withChild nodes parent kind)[nodes.size]? =
    some ⟨kind, some parent, #[]⟩ := by
  rw [withChild, Array.getElem?_push, Array.size_modify, if_pos rfl]

theorem getElem?_withChild_of_old (h : nodes[i]? = some old) :
    (withChild nodes parent kind)[i]? = some (gaining nodes parent i old) := by
  have lt : i < nodes.size := (Array.getElem?_eq_some_iff.mp h).1
  rw [withChild, Array.getElem?_push, Array.size_modify, if_neg lt.ne, Array.getElem?_modify, h]
  by_cases same : parent = i
  · simp [gaining, same]
  · simp [gaining, same, Ne.symm same]

theorem withChild_cases (h : (withChild nodes parent kind)[i]? = some m) :
    i = nodes.size ∧ m = ⟨kind, some parent, #[]⟩ ∨
      ∃ old, nodes[i]? = some old ∧ m = gaining nodes parent i old := by
  cases found : nodes[i]? with
  | some old =>
      rw [getElem?_withChild_of_old found] at h
      exact .inr ⟨old, rfl, (Option.some.inj h).symm⟩
  | none =>
      have lt : i < nodes.size + 1 := by
        simpa [withChild] using (Array.getElem?_eq_some_iff.mp h).1
      have ge : nodes.size ≤ i := Array.getElem?_eq_none_iff.mp found
      have last : i = nodes.size := by omega
      subst last
      rw [getElem?_withChild_size] at h
      exact .inl ⟨rfl, (Option.some.inj h).symm⟩

end Builder

namespace Linked

open Builder

variable {nodes : Array Node} {roots : Array NodeId}

theorem empty : Linked #[] #[] where
  child_parent := by simp
  parent_child := by simp
  parent_lt := by simp
  mem_roots := by simp
  children_increase := by simp
  roots_increase := by simp
  leaf_children := by simp

theorem lt_size {i : NodeId} {n : Node} (h : nodes[i]? = some n) : i < nodes.size :=
  (Array.getElem?_eq_some_iff.mp h).1

theorem child_lt_size (linked : Linked nodes roots) {p c : NodeId} {n : Node}
    (h : nodes[p]? = some n) (child : c ∈ n.children) : c < nodes.size := by
  obtain ⟨m, found, -⟩ := linked.child_parent h child
  exact lt_size found

theorem lt_child (linked : Linked nodes roots) {p c : NodeId} {n : Node} (h : nodes[p]? = some n)
    (child : c ∈ n.children) : p < c := by
  obtain ⟨m, found, parent⟩ := linked.child_parent h child
  exact linked.parent_lt found parent

theorem root_lt_size (linked : Linked nodes roots) {r : NodeId} (h : r ∈ roots) : r < nodes.size := by
  obtain ⟨m, found, -⟩ := linked.mem_roots.mp h
  exact lt_size found

theorem root (linked : Linked nodes roots) (kind : NodeKind) :
    Linked (nodes.push ⟨kind, none, #[]⟩) (roots.push nodes.size) where
  child_parent {p c n} there child := by
    rcases push_cases there with ⟨-, rfl⟩ | there
    · simp at child
    · obtain ⟨m, below, up⟩ := linked.child_parent there child
      exact ⟨m, getElem?_push_of_old below, up⟩
  parent_child {p c m} there up := by
    rcases push_cases there with ⟨-, rfl⟩ | there
    · simp at up
    · obtain ⟨n, above, child⟩ := linked.parent_child there up
      exact ⟨n, getElem?_push_of_old above, child⟩
  parent_lt {p c m} there up := by
    rcases push_cases there with ⟨-, rfl⟩ | there
    · simp at up
    · exact linked.parent_lt there up
  mem_roots {r} := by
    rw [Array.mem_push, linked.mem_roots]
    constructor
    · rintro (⟨n, there, top⟩ | rfl)
      · exact ⟨n, getElem?_push_of_old there, top⟩
      · exact ⟨_, Array.getElem?_push_size, rfl⟩
    · rintro ⟨n, there, top⟩
      rcases push_cases there with ⟨rfl, -⟩ | there
      · exact .inr rfl
      · exact .inl ⟨n, there, top⟩
  children_increase {p n} there := by
    rcases push_cases there with ⟨-, rfl⟩ | there
    · simp
    · exact linked.children_increase there
  roots_increase := pairwise_push linked.roots_increase fun _ => linked.root_lt_size
  leaf_children {p n} there leaf := by
    rcases push_cases there with ⟨-, rfl⟩ | there
    · rfl
    · exact linked.leaf_children there leaf

theorem push (linked : Linked nodes roots) {parent : NodeId} {n : Node}
    (found : nodes[parent]? = some n) (inner : n.kind.isLeaf = false) (kind : NodeKind) :
    Linked (withChild nodes parent kind) roots where
  child_parent {p c m} there child := by
    rcases withChild_cases there with ⟨-, rfl⟩ | ⟨old, old_there, rfl⟩
    · simp at child
    · have old_child (member : c ∈ old.children) :
          ∃ m, (withChild nodes parent kind)[c]? = some m ∧ m.parent = some p := by
        obtain ⟨m, there, up⟩ := linked.child_parent old_there member
        exact ⟨_, getElem?_withChild_of_old there, up⟩
      simp only [gaining] at child
      split at child
      · rename_i same
        rcases Array.mem_push.mp child with member | rfl
        · exact old_child member
        · exact ⟨_, getElem?_withChild_size, same ▸ rfl⟩
      · exact old_child child
  parent_child {p c m} there up := by
    rcases withChild_cases there with ⟨rfl, rfl⟩ | ⟨old, old_there, rfl⟩
    · cases up
      exact ⟨_, getElem?_withChild_of_old found, by simp [gaining]⟩
    · obtain ⟨above, above_there, member⟩ := linked.parent_child old_there up
      refine ⟨_, getElem?_withChild_of_old above_there, ?_⟩
      simp only [gaining]
      split
      · exact Array.mem_push_of_mem _ member
      · exact member
  parent_lt {p c m} there up := by
    rcases withChild_cases there with ⟨rfl, rfl⟩ | ⟨old, old_there, rfl⟩
    · cases up
      exact lt_size found
    · exact linked.parent_lt old_there up
  mem_roots {r} := by
    rw [linked.mem_roots]
    constructor
    · rintro ⟨m, there, up⟩
      exact ⟨_, getElem?_withChild_of_old there, up⟩
    · rintro ⟨m, there, up⟩
      rcases withChild_cases there with ⟨-, rfl⟩ | ⟨old, old_there, rfl⟩
      · simp at up
      · exact ⟨old, old_there, up⟩
  children_increase {p m} there := by
    rcases withChild_cases there with ⟨-, rfl⟩ | ⟨old, old_there, rfl⟩
    · simp
    · simp only [gaining]
      split
      · exact pairwise_push (linked.children_increase old_there) fun _ =>
          linked.child_lt_size old_there
      · exact linked.children_increase old_there
  roots_increase := linked.roots_increase
  leaf_children {p m} there leaf := by
    rcases withChild_cases there with ⟨-, rfl⟩ | ⟨old, old_there, rfl⟩
    · rfl
    · simp only [gaining] at leaf ⊢
      split
      · rename_i same
        subst same
        rw [found] at old_there
        cases old_there
        simp [inner] at leaf
      · exact linked.leaf_children old_there leaf

end Linked

namespace Builder

theorem linked_call {b : Builder} (linked : Linked b.nodes b.roots) (c : Call) :
    Linked (b.call c).nodes (b.call c).roots := by
  cases c with
  | root kind => exact linked.root kind
  | push kind parent =>
      cases parent with
      | none => exact linked.root kind
      | some parent =>
          simp only [call, push]
          split
          · rename_i pushed
            obtain ⟨n, found, inner, -, rfl⟩ := pushUnder_eq_ok.mp pushed
            exact linked.push found inner kind
          · exact linked

/-- `Linked` is an invariant of all calls. -/
theorem linked_ofCalls (calls : List Call) : Linked (ofCalls calls).nodes (ofCalls calls).roots := by
  have linked_foldl {b : Builder} (linked : Linked b.nodes b.roots) :
      Linked (calls.foldl call b).nodes (calls.foldl call b).roots := by
    induction calls generalizing b with
    | nil => exact linked
    | cons c calls ih => exact ih (linked_call linked c)
  exact linked_foldl Linked.empty

end Builder

/-! ## Finished trees -/

namespace Tree

/-- The tree is what some builder was finished to. -/
def Built (t : Tree) : Prop := ∃ calls, (Builder.ofCalls calls).finish = .ok t

theorem built_of_reaches {b : Builder} {t : Tree} (reached : Builder.empty.Reaches b)
    (finished : b.finish = .ok t) : t.Built := by
  obtain ⟨calls, rfl⟩ := reached
  exact ⟨calls, finished⟩

theorem Built.linked {t : Tree} (built : t.Built) : Linked t.nodes t.roots := by
  obtain ⟨calls, finished⟩ := built
  simp only [Builder.finish] at finished
  split at finished
  · simp at finished
  · cases finished
    exact Builder.linked_ofCalls calls

theorem Built.children_ne {t : Tree} (built : t.Built) {id : NodeId} {n : Node}
    (found : t.get? id = some n) (needs : n.kind.needsChildren) : n.children ≠ #[] := by
  obtain ⟨calls, finished⟩ := built
  simp only [Builder.finish] at finished
  split at finished
  · simp at finished
  · rename_i none_lacks
    cases finished
    have := Array.find?_eq_none.mp none_lacks n (Array.mem_of_getElem? found)
    simpa [needs] using this

theorem node_eq_ok {t : Tree} {id : NodeId} {n : Node} : t.node id = .ok n ↔ t.get? id = some n := by
  cases found : t.get? id <;> simp [node, found]

end Tree

namespace Subtree

def id : Subtree → NodeId
  | node id _ _ => id

mutual

/-- The tree has the same nodes with the same links as the subtree, whose top node is below `parent`. -/
def SitsIn (t : Tree) (parent : Option NodeId) : Subtree → Prop
  | node id kind children =>
    t.get? id = some ⟨kind, parent, (children.map Subtree.id).toArray⟩ ∧
      AllSitIn t (some id) children

def AllSitIn (t : Tree) (parent : Option NodeId) : List Subtree → Prop
  | [] => True
  | s :: ss => s.SitsIn t parent ∧ AllSitIn t parent ss

end

end Subtree

namespace Tree

theorem exists_subtrees {t : Tree} {depth : Nat} {parent : Option NodeId} {ids : List NodeId}
    (each : ∀ id ∈ ids, ∃ s, t.subtree depth id = .ok s ∧ s.id = id ∧ s.SitsIn t parent) :
    ∃ ss, ids.mapM (t.subtree depth) = .ok ss ∧ ss.map Subtree.id = ids ∧
      Subtree.AllSitIn t parent ss := by
  induction ids with
  | nil => exact ⟨[], rfl, rfl, trivial⟩
  | cons id ids ih =>
      obtain ⟨s, found, same, sits⟩ := each id List.mem_cons_self
      obtain ⟨ss, all_found, all_same, all_sit⟩ := ih fun i member => each i (.tail _ member)
      refine ⟨s :: ss, ?_, by rw [List.map_cons, same, all_same], sits, all_sit⟩
      rw [List.mapM_cons, found, all_found]
      rfl

/-- In a `Linked` tree `subtree` needs no more depth than there are nodes from its own one on, since
    children come after their parent. -/
theorem exists_subtree {t : Tree} (linked : Linked t.nodes t.roots) {depth id : Nat} {n : Node}
    (found : t.get? id = some n) (deep : t.size ≤ id + depth) :
    ∃ s, t.subtree depth id = .ok s ∧ s.id = id ∧ s.SitsIn t n.parent := by
  induction depth generalizing id n with
  | zero =>
      have : id < t.size := Linked.lt_size found
      omega
  | succ depth ih =>
      have each : ∀ c ∈ n.children.toList,
          ∃ s, t.subtree depth c = .ok s ∧ s.id = c ∧ s.SitsIn t (some id) := by
        intro c member
        have child : c ∈ n.children := Array.mem_def.mpr member
        obtain ⟨m, there, up⟩ := linked.child_parent found child
        have after : id < c := linked.lt_child found child
        rw [← up]
        exact ih there (by omega)
      obtain ⟨ss, all_found, all_same, all_sit⟩ := exists_subtrees each
      refine ⟨.node id n.kind ss, ?_, rfl, ?_, all_sit⟩
      · simp only [subtree, node_eq_ok.mpr found, all_found, Functor.map, Except.map]
      · rw [found, all_same, Array.toArray_toList]

/-- `Tree.subtrees` succeeds on every `Built` tree, in the order of its roots. -/
theorem Built.exists_subtrees {t : Tree} (built : t.Built) :
    ∃ ss, t.subtrees = .ok ss ∧ ss.map Subtree.id = t.roots.toList ∧ Subtree.AllSitIn t none ss := by
  apply Tree.exists_subtrees
  intro id member
  obtain ⟨n, found, top⟩ := built.linked.mem_roots.mp (Array.mem_def.mpr member)
  rw [← top]
  exact exists_subtree built.linked found (Nat.le_add_left _ _)

end Tree

end PatternSampler
