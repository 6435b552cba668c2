import Mathlib
import PatternSampler.Proofs.Lists
import PatternSampler.Proofs.Tree.Preorder

/-! # The place of a node

A node is listed once: among the top-level nodes if it has no parent, and among the children of its
parent if it has one. So a walk from the top-level nodes down meets every node, and none of them twice.
-/

namespace PatternSampler

/-- Of all lists of ids, only that of the parent has the id, and has it once. Without a parent this is
    the list of the top-level nodes. -/
structure ListedOnce (nodes : Array Node) (roots : Array NodeId) (id : NodeId)
    (parent : Option NodeId) : Prop where
  count_roots : roots.count id = if parent = none then 1 else 0
  count_children : ∀ {p : NodeId} {n : Node}, nodes[p]? = some n →
    n.children.count id = if parent = some p then 1 else 0
  parent_known : ∀ p ∈ parent, p < nodes.size

namespace Linked

variable {nodes : Array Node} {roots : Array NodeId}

theorem listedOnce (linked : Linked nodes roots) {id : NodeId} {n : Node}
    (found : nodes[id]? = some n) : ListedOnce nodes roots id n.parent where
  count_roots := by
    have top : id ∈ roots ↔ n.parent = none := by
      rw [linked.mem_roots]
      exact ⟨fun ⟨m, there, top⟩ => Option.some.inj (found.symm.trans there) ▸ top,
        fun top => ⟨n, found, top⟩⟩
    rw [count_of_increasing linked.roots_increase, if_congr top rfl rfl]
  count_children {p above} there := by
    have child : id ∈ above.children ↔ n.parent = some p := by
      constructor
      · intro child
        obtain ⟨m, below, up⟩ := linked.child_parent there child
        exact Option.some.inj (found.symm.trans below) ▸ up
      · intro up
        obtain ⟨m, again, child⟩ := linked.parent_child found up
        exact Option.some.inj (there.symm.trans again) ▸ child
    rw [count_of_increasing (linked.children_increase there), if_congr child rfl rfl]
  parent_known p up := by
    obtain ⟨m, above, -⟩ := linked.parent_child found up
    exact lt_size above

end Linked

/-! ## Walks -/

namespace Subtree

variable {t : Tree}

mutual

theorem lt_size_of_mem_preorder {parent : Option NodeId} {st : Subtree} (sits : st.SitsIn t parent) :
    ∀ id ∈ st.preorder, id < t.size := by
  cases st with
  | node id kind children =>
      rw [preorder]
      exact List.forall_mem_cons.mpr
        ⟨Linked.lt_size sits.1, lt_size_of_mem_preorderAll sits.2⟩

theorem lt_size_of_mem_preorderAll {parent : Option NodeId} {ss : List Subtree}
    (sit : AllSitIn t parent ss) : ∀ id ∈ preorderAll ss, id < t.size := by
  cases ss with
  | nil => simp [preorderAll]
  | cons st ss =>
      rw [preorderAll]
      exact List.forall_mem_append.mpr
        ⟨lt_size_of_mem_preorder sit.1, lt_size_of_mem_preorderAll sit.2⟩

end

mutual

/-- `preorder` comes to an id as often as to the node that lists it, and once more if it starts there. -/
theorem count_preorder {above : Option NodeId} {c : NodeId} (listed : ListedOnce t.nodes t.roots c above)
    {parent : Option NodeId} {st : Subtree} (sits : st.SitsIn t parent) :
    st.preorder.count c =
      (st.preorder.map some).count above + if st.id = c then 1 else 0 := by
  cases st with
  | node id kind children =>
      have below := count_preorderAll listed sits.2
      have own : (children.map Subtree.id).count c = if some id = above then 1 else 0 := by
        rw [← List.count_toArray, if_congr eq_comm rfl rfl]
        exact listed.count_children sits.1
      rw [preorder, Subtree.id, List.map_cons, List.count_cons, List.count_cons, below, own]
      simp only [beq_iff_eq]

theorem count_preorderAll {above : Option NodeId} {c : NodeId}
    (listed : ListedOnce t.nodes t.roots c above) {parent : Option NodeId} {ss : List Subtree}
    (sit : AllSitIn t parent ss) : (preorderAll ss).count c =
      ((preorderAll ss).map some).count above + (ss.map Subtree.id).count c := by
  cases ss with
  | nil => rfl
  | cons st ss =>
      have first := count_preorder listed sit.1
      have others := count_preorderAll listed sit.2
      rw [preorderAll, List.map_cons, List.map_append, List.count_append, List.count_append,
        List.count_cons, first, others]
      simp only [beq_iff_eq]
      omega

end

end Subtree

namespace Tree

variable {t : Tree} {tops : List Subtree}

theorem count_walk (linked : Linked t.nodes t.roots) (roots : tops.map Subtree.id = t.roots.toList)
    (sit : Subtree.AllSitIn t none tops) {c : NodeId} (known : c < t.size) :
    (Subtree.preorderAll tops).count c = 1 := by
  -- Parents come first, so the parent has been counted already.
  induction c using Nat.strong_induction_on with
  | _ c ih =>
      obtain ⟨n, found⟩ : ∃ n, t.nodes[c]? = some n := ⟨_, Array.getElem?_eq_getElem known⟩
      have listed := linked.listedOnce found
      have top := listed.count_roots
      rw [← Array.count_toList] at top
      rw [Subtree.count_preorderAll listed sit, roots, top]
      cases parent : n.parent with
      | none => simp [List.count_eq_zero]
      | some p =>
          have before : p < c := linked.parent_lt found parent
          rw [List.count_map_of_injective _ _ (Option.some_injective _),
            ih p before (before.trans known)]
          rfl

theorem perm_walk (linked : Linked t.nodes t.roots) (roots : tops.map Subtree.id = t.roots.toList)
    (sit : Subtree.AllSitIn t none tops) : (Subtree.preorderAll tops).Perm (List.range t.size) := by
  refine List.perm_iff_count.mpr fun c => ?_
  by_cases known : c < t.size
  · rw [count_walk linked roots sit known,
      List.count_eq_one_of_mem List.nodup_range (List.mem_range.mpr known)]
  · rw [List.count_eq_zero.mpr fun met => known (Subtree.lt_size_of_mem_preorderAll sit c met),
      List.count_eq_zero.mpr fun inside => known (List.mem_range.mp inside)]

theorem mapM_subtree_of_size_le (linked : Linked t.nodes t.roots)
    (roots : tops.map Subtree.id = t.roots.toList) (sit : Subtree.AllSitIn t none tops) {depth : Nat}
    (deep : t.size ≤ depth) : t.roots.toList.mapM (t.subtree depth) = .ok tops := by
  have each : ∀ id ∈ t.roots.toList,
      ∃ s, t.subtree depth id = .ok s ∧ s.id = id ∧ s.SitsIn t none := by
    intro id member
    obtain ⟨n, found, top⟩ := linked.mem_roots.mp (Array.mem_def.mpr member)
    rw [← top]
    exact exists_subtree linked found (Nat.le_add_left_of_le deep)
  obtain ⟨ss, all, roots', sit'⟩ := exists_subtrees each
  rw [all, sit'.unique sit (roots'.trans roots.symm)]

/-- A walk from the top-level nodes down through the children ends, however deep it may go, and meets
    every node once. -/
def WalkedOnce (t : Tree) : Prop :=
  ∃ tops, (∀ depth ≥ t.size, t.roots.toList.mapM (t.subtree depth) = .ok tops) ∧
    tops.map Subtree.id = t.roots.toList ∧ Subtree.AllSitIn t none tops ∧
    (Subtree.preorderAll tops).Perm (List.range t.size)

theorem Built.walkedOnce (built : t.Built) : t.WalkedOnce := by
  obtain ⟨tops, -, roots, sit⟩ := built.exists_subtrees
  exact ⟨tops, fun _ => mapM_subtree_of_size_le built.linked roots sit, roots, sit,
    perm_walk built.linked roots sit⟩

end Tree

/-! ## Pushing in place -/

namespace Builder

/-- A push on a builder that is changed in place. The list that the node is to be found in takes its id
    before the node itself is there, and what was changed before a refusal would stay changed. -/
def pushInPlace (kind : NodeKind) (parent : Option NodeId) :
    EStateM ValidationError Builder NodeId := do
  let id := (← get).nextId
  match parent with
  | some p =>
    match (← get).nodes[p]? with
    | none => throw (.unknownNode p)
    | some above =>
      if above.kind.isLeaf then throw (.leafParent above.kind.name)
      modify fun b =>
        { b with nodes := b.nodes.modify p fun n => { n with children := n.children.push id } }
  | none => modify fun b => { b with roots := b.roots.push id }
  modify fun b => { b with nodes := b.nodes.push ⟨kind, parent, #[]⟩ }
  return id

theorem run_pushInPlace (b : Builder) (kind : NodeKind) (parent : Option NodeId) :
    (pushInPlace kind parent).run b =
      match b.push kind parent with
      | .ok (id, b') => .ok id b'
      | .error e => .error e b := by
  cases parent with
  | none => rfl
  | some p =>
      rw [push, pushUnder]
      cases found : b.nodes[p]? with
      | none => simp [pushInPlace, found]
      | some above => cases leaf : above.kind.isLeaf <;> simp [pushInPlace, found, leaf]

/-- Why a push under `parent` is refused: there is no such node, or it can have no children. -/
inductive Refusal (b : Builder) : (parent : Option NodeId) → ValidationError → Prop
  | unknownNode {p : NodeId} (missing : b.nodes[p]? = none) : Refusal b (some p) (.unknownNode p)
  | leafParent {p : NodeId} {n : Node} (found : b.nodes[p]? = some n) (leaf : n.kind.isLeaf) :
      Refusal b (some p) (.leafParent n.kind.name)

theorem refusal_of_push {b : Builder} {kind : NodeKind} {parent : Option NodeId} {e : ValidationError}
    (refused : b.push kind parent = .error e) : Refusal b parent e := by
  cases parent with
  | none => simp [push] at refused
  | some p =>
      rw [push, pushUnder] at refused
      cases found : b.nodes[p]? with
      | none =>
          simp only [found, Option.map_none, Except.error.injEq] at refused
          exact refused ▸ .unknownNode found
      | some n =>
          simp only [found, Option.map_some] at refused
          split at refused
          · rename_i leaf
            cases refused
            exact .leafParent found leaf
          · cases refused

theorem id_of_push {b b' : Builder} {kind : NodeKind} {parent : Option NodeId} {id : NodeId}
    (pushed : b.push kind parent = .ok (id, b')) : id = b.nextId := by
  cases parent with
  | none =>
      cases pushed
      rfl
  | some p =>
      obtain ⟨-, -, -, same, -⟩ := pushUnder_eq_ok.mp pushed
      exact same

theorem ofCalls_concat (calls : List Call) (c : Call) :
    ofCalls (calls ++ [c]) = (ofCalls calls).call c :=
  List.foldl_concat ..

/-- After any calls the nodes are `Linked` and each is `ListedOnce`. `pushInPlace` adds one node or, with a
    `Refusal`, changes nothing. What `finish` answers is `WalkedOnce`, and every node that needs children
    has some. -/
theorem nodes_placed (calls : List Call) :
    Linked (ofCalls calls).nodes (ofCalls calls).roots ∧
    (∀ {id : NodeId} {n : Node}, (ofCalls calls).nodes[id]? = some n →
      ListedOnce (ofCalls calls).nodes (ofCalls calls).roots id n.parent) ∧
    (∀ (kind : NodeKind) (parent : Option NodeId),
      match (pushInPlace kind parent).run (ofCalls calls) with
      | .ok id b => id = (ofCalls calls).nextId ∧ b = ofCalls (calls ++ [.push kind parent])
      | .error e b => b = ofCalls calls ∧ Refusal (ofCalls calls) parent e) ∧
    ∀ {t : Tree}, (ofCalls calls).finish = .ok t → t.WalkedOnce ∧
      ∀ {id : NodeId} {n : Node}, t.get? id = some n → n.kind.needsChildren → n.children ≠ #[] := by
  refine ⟨linked_ofCalls calls, (linked_ofCalls calls).listedOnce, fun kind parent => ?_,
    fun finished => ?_⟩
  · rw [run_pushInPlace, ofCalls_concat, call]
    cases answer : (ofCalls calls).push kind parent with
    | error e => exact ⟨rfl, refusal_of_push answer⟩
    | ok pushed => exact ⟨id_of_push answer, rfl⟩
  · have built : Tree.Built _ := ⟨calls, finished⟩
    exact ⟨built.walkedOnce, built.children_ne⟩

/-- Seven calls of which two are refused: one for a child of a token, one for a child of no node. -/
def callsRefusedTwice : List Call :=
  [.root .opening, .push (.token .period) (some 0), .push .closing (some 1), .push .group (some 7),
    .push .choice (some 0), .push (.token .star) (some 2), .push .closing none]

theorem nodes_placed_refused_twice : ∃ t : Tree, (ofCalls callsRefusedTwice).finish = .ok t ∧
    t.get? 3 = some ⟨.token .star, some 2, #[]⟩ ∧ ListedOnce t.nodes t.roots 3 (some 2) ∧
    t.WalkedOnce := by
  obtain ⟨-, listed, -, finished⟩ := nodes_placed callsRefusedTwice
  have star : (ofCalls callsRefusedTwice).nodes[3]? = some ⟨.token .star, some 2, #[]⟩ := rfl
  exact ⟨_, rfl, star, listed star, (finished rfl).1⟩

end Builder

end PatternSampler
