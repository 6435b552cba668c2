import Mathlib
import PatternSampler.Proofs.Tree.Graft

/-! # How many children there are

The kind of a node says how many children it has in the tree of a pattern. This is more than a builder
asks for, which is content with a single child where some are needed.
-/

namespace PatternSampler

/-- Whether a node of this kind can have so many children in the tree of a pattern: branches only make
    an alternative if there are several. -/
def NodeKind.Filled (kind : NodeKind) (count : Nat) : Prop :=
  match kind with
  | .opening => True
  | .alternative => 2 ≤ count
  | .group | .choice => 1 ≤ count
  | .repetition _ => count = 1
  | .closing | .characterClass _ | .token _ => count = 0

theorem NodeKind.Filled.eq_zero {kind : NodeKind} {count : Nat} (filled : kind.Filled count)
    (leaf : kind.isLeaf) : count = 0 := by
  cases kind with
  | characterClass | token => exact filled
  | _ => cases leaf

theorem NodeKind.Filled.pos {kind : NodeKind} {count : Nat} (filled : kind.Filled count)
    (needs : kind.needsChildren) : 0 < count := by
  cases kind with
  | alternative => exact two_pos.trans_le filled
  | group | choice => exact filled
  | _ => cases needs

namespace Sprout

mutual

/-- All nodes have as many children as in the tree of a pattern. -/
def Filled : Sprout → Prop
  | .node kind children => kind.Filled children.length ∧ AllFilled children

def AllFilled : List Sprout → Prop
  | [] => True
  | s :: ss => s.Filled ∧ AllFilled ss

end

mutual

theorem Filled.wellFormed {s : Sprout} (filled : s.Filled) : s.WellFormed := by
  cases s with
  | node kind children =>
      exact ⟨fun leaf => List.length_eq_zero_iff.mp (filled.1.eq_zero leaf),
        fun needs => List.ne_nil_of_length_pos (filled.1.pos needs), filled.2.wellFormed⟩

theorem AllFilled.wellFormed {ss : List Sprout} (filled : AllFilled ss) : AllWellFormed ss := by
  cases ss with
  | nil => trivial
  | cons s ss => exact ⟨filled.1.wellFormed, filled.2.wellFormed⟩

end

mutual

theorem Filled.nodes {s : Sprout} (filled : s.Filled) {id : NodeId} {parent : Option NodeId} {n : Node}
    (member : n ∈ s.nodes id parent) : n.kind.Filled n.children.size := by
  cases s with
  | node kind children =>
      rcases List.mem_cons.mp member with rfl | below
      · simpa [length_ids] using filled.1
      · exact filled.2.nodes below

theorem AllFilled.nodes {ss : List Sprout} (filled : AllFilled ss) {id : NodeId}
    {parent : Option NodeId} {n : Node} (member : n ∈ nodesAll id parent ss) :
    n.kind.Filled n.children.size := by
  cases ss with
  | nil => cases member
  | cons s ss =>
      rcases List.mem_append.mp member with first | others
      · exact filled.1.nodes first
      · exact filled.2.nodes others

end

end Sprout

end PatternSampler
