import Mathlib
import PatternSampler.Proofs.Tree.Graft

/-! # Walks over a framed tree

A framed tree holds what was put into the frame and nothing else. Its ids were given out in the order of
a walk that meets a node before its children, so such a walk counts them up from zero.
-/

namespace PatternSampler

namespace Subtree

mutual

theorem SitsIn.unique {t : Tree} {parent : Option NodeId} {s s' : Subtree} (sits : s.SitsIn t parent)
    (sits' : s'.SitsIn t parent) (same : s.id = s'.id) : s = s' := by
  cases s with
  | node id kind children =>
      cases s' with
      | node id' kind' children' =>
          cases same
          obtain ⟨found, below⟩ := sits
          obtain ⟨found', below'⟩ := sits'
          obtain ⟨rfl, -, links⟩ := Node.mk.inj (Option.some.inj (found.symm.trans found'))
          rw [AllSitIn.unique below below' (congrArg Array.toList links)]

theorem AllSitIn.unique {t : Tree} {parent : Option NodeId} {ss ss' : List Subtree}
    (sit : AllSitIn t parent ss) (sit' : AllSitIn t parent ss')
    (same : ss.map Subtree.id = ss'.map Subtree.id) : ss = ss' := by
  cases ss with
  | nil => exact (List.map_eq_nil_iff.mp same.symm).symm
  | cons s ss =>
      obtain ⟨s', ss', rfl, first, others⟩ := List.map_eq_cons_iff.mp same.symm
      rw [SitsIn.unique sit.1 sit'.1 first.symm, AllSitIn.unique sit.2 sit'.2 others.symm]

end

mutual

/-- The ids of a subtree in the order of a walk that meets a node before its children. -/
def preorder : Subtree → List NodeId
  | node id _ children => id :: preorderAll children

def preorderAll : List Subtree → List NodeId
  | [] => []
  | s :: ss => s.preorder ++ preorderAll ss

end

mutual

/-- The subtree without its ids. -/
def uproot : Subtree → Sprout
  | node _ kind children => .node kind (uprootAll children)

def uprootAll : List Subtree → List Sprout
  | [] => []
  | s :: ss => s.uproot :: uprootAll ss

end

end Subtree

namespace Sprout

mutual

theorem preorder_subtree (s : Sprout) (id : NodeId) :
    (s.subtree id).preorder = List.range' id s.size := by
  cases s with
  | node kind children => rw [subtree, Subtree.preorder, preorder_subtreeAll, size, List.range'_succ]

theorem preorder_subtreeAll (ss : List Sprout) (id : NodeId) :
    Subtree.preorderAll (subtreeAll id ss) = List.range' id (sizeAll ss) := by
  cases ss with
  | nil => rfl
  | cons s ss =>
      rw [subtreeAll, Subtree.preorderAll, preorder_subtree, preorder_subtreeAll, sizeAll,
        List.range'_append_1]

end

mutual

theorem uproot_subtree (s : Sprout) (id : NodeId) : (s.subtree id).uproot = s := by
  cases s with
  | node kind children => rw [subtree, Subtree.uproot, uproot_subtreeAll]

theorem uproot_subtreeAll (ss : List Sprout) (id : NodeId) :
    Subtree.uprootAll (subtreeAll id ss) = ss := by
  cases ss with
  | nil => rfl
  | cons s ss => rw [subtreeAll, Subtree.uprootAll, uproot_subtree, uproot_subtreeAll]

end

end Sprout

namespace Tree

variable {ss : List Sprout}

/-- The top-level nodes of a framed tree, with what is below them. -/
def frame (ss : List Sprout) : List Sprout := [.node .opening ss, .node .closing []]

theorem subtreeAll_frame : Sprout.subtreeAll 0 (frame ss) =
    [.node 0 .opening (Sprout.subtreeAll 1 ss), .node (1 + Sprout.sizeAll ss) .closing []] := by
  simp [frame, Sprout.subtreeAll, Sprout.subtree, Sprout.size, Nat.add_comm]

theorem subtrees_framed (wf : Sprout.AllWellFormed ss) :
    (framed ss).subtrees = .ok (Sprout.subtreeAll 0 (frame ss)) := by
  obtain ⟨found, all, roots, sit⟩ := (built_framed wf).exists_subtrees
  have sit' : Subtree.AllSitIn (framed ss) none (Sprout.subtreeAll 0 (frame ss)) := by
    rw [subtreeAll_frame]
    exact ⟨⟨get?_framed_opening, allSitIn_framed⟩, ⟨get?_framed_closing, trivial⟩, trivial⟩
  have same : (framed ss).roots.toList = (Sprout.subtreeAll 0 (frame ss)).map Subtree.id := by
    rw [subtreeAll_frame]
    exact congrArg Array.toList Builder.roots_framed
  rw [all, sit.unique sit' (roots.trans same)]

theorem size_framed : (framed ss).size = Sprout.sizeAll (frame ss) := by
  rw [size, framed, ← Array.length_toList, Builder.nodes_framed]
  simp [Sprout.length_nodesAll, frame, Sprout.sizeAll, Sprout.size]

/-- `preorder` of a frame counts the ids up from zero. -/
theorem preorder_framed (wf : Sprout.AllWellFormed ss) :
    ∃ tops, (framed ss).subtrees = .ok tops ∧
      Subtree.preorderAll tops = List.range (framed ss).size := by
  refine ⟨_, subtrees_framed wf, ?_⟩
  rw [Sprout.preorder_subtreeAll, size_framed, List.range_eq_range']

/-- What stands below the opening nodes of a tree, the ids apart. -/
def body (t : Tree) : Except Fault (List Sprout) :=
  (fun tops => tops.flatMap fun
    | .node _ .opening children => Subtree.uprootAll children
    | _ => []) <$> t.subtrees

theorem body_framed (wf : Sprout.AllWellFormed ss) : (framed ss).body = .ok ss := by
  rw [body, subtrees_framed wf, subtreeAll_frame]
  simp [Sprout.uproot_subtreeAll]

end Tree

end PatternSampler
